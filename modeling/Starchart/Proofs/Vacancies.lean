import Starchart.Proofs.Naming
import Starchart.Random.Congruential

/-!
# Taking vacant orbits

Three phases look for vacancies among the orbits of a star: gas giants and planetoid belts take as many
as are wanted, each kind with orbits of its own that it prefers, and the worlds take what is left.  On
any star they end, whatever its slots hold, and leave all slots alone that had been decided.

## Main definitions

* `Starchart.Population.PlacesUpTo` — bodies of which some number was wanted are placed.
* `Starchart.StarSystem.IsShadowed` — vacant orbits just inside a gas giant.
* `Starchart.GasGiant.IsNew`, `Starchart.World.IsNewBelt`, `Starchart.World.IsFiller` — bodies as they
  are placed.

## Main results

* `Starchart.Population.placeGiants_places` — gas giants, from the habitable zone outward first.
* `Starchart.Population.placeBelts_places` — planetoid belts, just inside gas giants first.
* `Starchart.Population.fill_fills` — worlds for all other orbits beyond the hot zone.
-/

set_option autoImplicit false

namespace Starchart

/-! ## New bodies -/

/-- A gas giant as it is placed on orbit `i` of a star: it carries the number of the orbit, is named
after it and has no satellites. -/
structure GasGiant.IsNew (star : String) (i : Nat) (g : GasGiant) : Prop where
  orbit : g.orbit = i
  named : Name.designation star i = .ok g.name
  bare : g.satellites = []

/-- A planetoid belt as it is placed on orbit `i`: a world without size and satellites whose
population stays below that of the main world. -/
structure World.IsNewBelt (w main : World) (i : Nat) : Prop where
  name : w.name = Name.belt
  orbit : w.orbit = i
  position : w.position = i
  size : w.profile.size = 0
  population : 0 ≤ w.profile.population ∧
    w.profile.population ≤ max 0 (main.profile.population - 1)
  bare : w.satellites = []

/-- A world as it is placed on orbit `i` of a star: its natural digits are limited, it is dry
without a size or in the inner zone, and it is named after the orbit exactly if nobody lives
there. -/
structure World.IsFiller (zones : Zones) (star : String) (i : Nat) (w : World) : Prop where
  orbit : w.orbit = i
  position : w.position = i
  size : 0 ≤ w.profile.size ∧ w.profile.size ≤ 10
  atmosphere : 0 ≤ w.profile.atmosphere ∧ w.profile.atmosphere ≤ 10
  hydro : 0 ≤ w.profile.hydro ∧ w.profile.hydro ≤ 10
  dry : w.profile.size = 0 ∨ (i : Int) ≤ zones.inner → w.profile.hydro = 0
  named : Name.designation star i = .ok w.name ↔ w.profile.population = 0

namespace Population

variable {σ : Type} [RandomSource σ]

/-- A rolled gas giant is a new one. -/
lemma isNew_of_canGive {s : StarSystem} {i : Nat} {g : GasGiant} (lt : i < 20)
    (rolled : (rollGiant s i : Roll σ Slot).CanGive (.giant g)) : g.IsNew s.name i := by
  obtain ⟨_, same, orbit, bare, named⟩ :=
    (gives_rollGiant (by omega) (by omega)).of_canGive rolled
  injection same with same
  subst same
  exact ⟨orbit, named, bare⟩

/-- A rolled belt is a new one. -/
lemma isNewBelt_of_canGive {s : StarSystem} {main w : World} {i : Nat}
    (classified : s.star.Classified) (rolled : (rollBelt s i main : Roll σ World).CanGive w) :
    w.IsNewBelt main i := by
  obtain ⟨population, isRaw, founded⟩ := (gives_rollBelt main classified i).of_canGive rolled
  have settled : w.profile.population = population :=
    congrArg Profile.population founded.profile_eq
  exact {
    name := congrArg World.name founded.frame
    orbit := congrArg World.orbit founded.frame
    position := congrArg World.position founded.frame
    size := congrArg Profile.size founded.profile_eq
    population := settled ▸ isRaw.population
    bare := congrArg World.satellites founded.frame }

/-- A rolled world fills its orbit.

**Proof sketch.** Settling a world adds to it and leaves size, atmosphere, water, population and
name as they were rolled. What a filler has to be is therefore read off the rolls. -/
lemma isFiller_of_canGive {s : StarSystem} {main w : World} {i : Nat} {zones : Zones}
    (classified : s.star.Classified) (zoned : s.star.zones = .ok zones) (lt : i < 20)
    (rolled : (rollWorld s i main : Roll σ World).CanGive w) : w.IsFiller zones s.name i := by
  obtain ⟨name, size, atmosphere, hydro, population, given, isRaw, founded, small, dry⟩ :=
    (gives_rollWorld main classified (by omega) (by omega)).of_canGive rolled
  -- settling the world leaves its natural digits as they were rolled
  have sized : w.profile.size = size := congrArg Profile.size founded.profile_eq
  have aired : w.profile.atmosphere = atmosphere := congrArg Profile.atmosphere founded.profile_eq
  have watered : w.profile.hydro = hydro := congrArg Profile.hydro founded.profile_eq
  have settled : w.profile.population = population :=
    congrArg Profile.population founded.profile_eq
  have called : w.name = name := congrArg World.name founded.frame
  have inhabited : ¬0 < population ↔ population = 0 := by
    have : 0 ≤ population := isRaw.population.1
    omega
  exact {
    orbit := congrArg World.orbit founded.frame
    position := congrArg World.position founded.frame
    size := sized ▸ ⟨isRaw.size.1, small⟩
    atmosphere := aired ▸ isRaw.atmosphere
    hydro := watered ▸ isRaw.hydro
    dry := by rw [sized, watered]; exact dry zoned
    named := by rw [called, settled, Name.designation_iff given, inhabited] }

/-! ## As many bodies as wanted -/

/-- What placing up to `wanted` bodies comes to. As many are placed as there is room for, one each
in the slots `filled`, and a shortfall is recorded, which leaves nothing undecided. Gas giants and
belts are two instances, which differ in what suits a slot. -/
structure PlacesUpTo (body plural : String) (wanted : Int) (Suits : Nat → Slot → Prop)
    (run : Run σ StarSystem) (placed : Int) (filled : Set Nat) (after : Run σ StarSystem) :
    Prop where
  count : placed = max 0 (min wanted (run.scene.slots.countP Slot.isUndecided))
  fills : run.scene.Fills filled Suits after.scene
  card : filled.ncard = placed
  journal : after.journal = run.journal ++
    if placed < wanted then
      [.diagnosed (shortfall run.scene.name body plural wanted placed)] else []
  full : placed < wanted → ∀ i : Nat, after.scene.slots[i]? ≠ some .undecided

section Placing

variable {c : Candidates} {orbits : List Int} {Suits : Nat → Slot → Prop}
  {run after : Run σ StarSystem} {body plural : String} {wanted placed : Int}

omit [RandomSource σ] in
/-- Bodies placed on picked orbits, where all undecided ones were candidates.

**Proof sketch.** When fewer bodies are placed than wanted, there are as many of them as candidates.
Since no orbit is picked twice, all candidates were picked. -/
lemma PlacesUpTo.of_placings (perm : c.all.Perm run.scene.undecidedOrbits)
    (decided : ∀ {i : Nat} {body : Slot}, Suits i body → body ≠ .undecided)
    (count : placed = max 0 (min wanted c.count))
    (journal : after.journal = run.journal ++
      if placed < wanted then
        [.diagnosed (shortfall run.scene.name body plural wanted placed)] else [])
    (placings : StarSystem.Placings Suits orbits run.scene after.scene)
    (length : (orbits.length : Int) = placed) (picks : c.Picks orbits) :
    PlacesUpTo body plural wanted Suits run placed {i : Nat | (i : Int) ∈ orbits} after where
  count := by
    rw [count, ← Candidates.length_all, perm.length_eq, StarSystem.length_undecidedOrbits]
  fills := placings.fills decided
  card := by rw [placings.ncard_eq decided, length]
  journal := journal
  full short i free := by
    obtain ⟨before, apart⟩ := (placings.fills decided).undecided_iff.mp free
    refine apart (picks.mem_of_length (placings.nodup decided) (by omega) ?_)
    exact perm.mem_iff.mpr (StarSystem.mem_undecidedOrbits.mpr ⟨i, rfl, before⟩)

omit [RandomSource σ] in
/-- The bodies placed may suit in a weaker sense. -/
lemma PlacesUpTo.mono {Suits' : Nat → Slot → Prop} {filled : Set Nat}
    (h : PlacesUpTo body plural wanted Suits run placed filled after)
    (imp : ∀ i body, run.scene.slots[i]? = some .undecided → Suits i body → Suits' i body) :
    PlacesUpTo body plural wanted Suits' run placed filled after :=
  { h with fills := h.fills.mono fun i body mem => imp i body (h.fills.content i mem).1 }

end Placing

/-! ## Gas giants -/

variable [Inexhaustible σ] {run : Run σ StarSystem}

/-- **Gas giants take vacant orbits.**  Placing gas giants around a star with at most twenty slots
ends with as many of them as are wanted and find room, and tells how many.  Each of them takes an
undecided slot, carries its number and designation and has no satellites, and all other slots stay
as they are. None is placed below the habitable orbit as long as an undecided slot is left from
there outward.  A shortfall is recorded exactly when there is one, and leaves nothing undecided.

**Proof sketch.** The candidates are the undecided orbits, those from the habitable one outward
first. Each pick takes one orbit out of them and puts a giant into its slot, so that those left over
are undecided still, and no placement is refused. -/
theorem placeGiants_places (mainName : String) (wanted : Int)
    (fitted : run.scene.slots.length = run.scene.maxOrbits.toNat)
    (few : run.scene.slots.length ≤ 20) (classified : run.scene.star.Classified) :
    ∃ zones placed filled after, run.scene.star.zones = .ok zones ∧
      placeGiants mainName wanted run = .ok placed after ∧
      PlacesUpTo "gas giant" "gas giants" wanted
        (fun i body => ∃ g, body = .giant g ∧ g.IsNew run.scene.name i) run placed filled after ∧
      ∀ i ∈ filled, (i : Int) < zones.habitable →
        ∀ j : Nat, zones.habitable ≤ j → after.scene.slots[j]? ≠ some .undecided := by
  obtain ⟨zones, zoned⟩ := classified.exists_zones
  obtain ⟨placed, after, ran, count, journal, orbits, placings, length, picks⟩ :=
    (ends_placeGiants mainName wanted fitted few zoned).exists_ok
  have places := PlacesUpTo.of_placings (perm_giantCandidates run.scene zones)
    (by rintro i _ ⟨g, rfl, -⟩; nofun) count journal placings length picks
  refine ⟨zones, placed, _, after, zoned, ran, places.mono ?_, ?_⟩
  · rintro i _ free ⟨g, rfl, rolled⟩
    have short := (List.getElem?_eq_some_iff.mp free).1
    exact ⟨g, rfl, isNew_of_canGive (by omega) rolled⟩
  · intro i mem inner j outer free
    obtain ⟨before, apart⟩ := places.fills.undecided_iff.mp free
    -- the giant below the habitable orbit was no preferred pick, so the preferred ones were used up
    have preferred : (j : Int) ∈ (giantCandidates run.scene zones).preferred :=
      List.mem_filter.mpr
        ⟨StarSystem.mem_undecidedOrbits.mpr ⟨j, rfl, before⟩, decide_eq_true outer⟩
    refine apart (picks.preferred_subset mem (fun early => ?_) preferred)
    have := of_decide_eq_true (List.mem_filter.mp early).2
    omega

/-- A star with four vacant orbits, one of them just inside a gas giant. -/
def vacantStar : StarSystem where
  name := "Regina"
  star := ⟨.G, 2, .V⟩
  maxOrbits := 6
  slots := [.undecided, .undecided, .giant { name := "Regina III", size := .large, orbit := 2 },
    .undecided, .empty 4, .undecided]

/-- Of nine gas giants four find room around the vacant star. -/
theorem placeGiants_places_vacant : vacantStar.slots.length = vacantStar.maxOrbits.toNat ∧
    vacantStar.slots.length ≤ 20 ∧ vacantStar.star.Classified ∧
    ∃ zones filled after, vacantStar.star.zones = .ok zones ∧
      placeGiants "Regina" 9 (⟨⟨(⟨1⟩ : Congruential), []⟩, [], vacantStar⟩ :
        Run Congruential StarSystem) = .ok 4 after ∧
      PlacesUpTo "gas giant" "gas giants" 9 (fun i body => ∃ g, body = .giant g ∧ g.IsNew "Regina" i)
        ⟨⟨⟨1⟩, []⟩, [], vacantStar⟩ 4 filled after ∧
      ∀ i ∈ filled, (i : Int) < zones.habitable →
        ∀ j : Nat, zones.habitable ≤ j → after.scene.slots[j]? ≠ some .undecided := by
  have classified : vacantStar.star.Classified := ⟨by decide, by decide⟩
  obtain ⟨zones, placed, filled, after, zoned, ran, places, outward⟩ :=
    @placeGiants_places Congruential _ _ ⟨⟨⟨1⟩, []⟩, [], vacantStar⟩ "Regina" 9 rfl (by decide)
      classified
  obtain rfl : placed = 4 := places.count
  exact ⟨rfl, by decide, classified, zones, filled, after, zoned, ran, places, outward⟩

/-! ## Planetoid belts -/

end Population

/-- An undecided orbit just inside a gas giant. -/
def StarSystem.IsShadowed (s : StarSystem) (i : Nat) : Prop :=
  s.slots[i]? = some .undecided ∧ ∃ g, s.slots[i + 1]? = some (.giant g)

namespace Population

variable {σ : Type} [RandomSource σ]

/-- The orbits that belts prefer are the shadowed ones.  A gas giant on orbit zero shadows none. -/
lemma mem_shadowedOrbits {s : StarSystem} (fitted : s.slots.length = s.maxOrbits.toNat)
    {orbit : Int} : orbit ∈ shadowedOrbits s ↔ ∃ i : Nat, orbit = i ∧ s.IsShadowed i := by
  simp only [shadowedOrbits, List.mem_filter, List.mem_map, StarSystem.mem_giantOrbits,
    StarSystem.isUndecided_iff fitted]
  constructor
  · rintro ⟨⟨_, ⟨j, rfl, g, held⟩, rfl⟩, i, inside, free⟩
    obtain rfl : j = i + 1 := by omega
    exact ⟨i, inside, free, g, held⟩
  · rintro ⟨i, rfl, free, g, held⟩
    exact ⟨⟨(i + 1 : Nat), ⟨i + 1, rfl, g, held⟩, by omega⟩, i, rfl, free⟩

variable [Inexhaustible σ] {run : Run σ StarSystem}

/-- **Belts take vacant orbits.**  Placing planetoid belts around a star ends with as many of them
as are wanted and find room, and tells how many.  Each of them takes an undecided slot and is a new
belt there, and all other slots stay as they are.  The orbits just inside a gas giant are preferred:
a belt takes another one only if each of these that was undecided gets a belt too.  A shortfall is
recorded exactly when there is one, and leaves nothing undecided.

**Proof sketch.** As for gas giants.  The number of a shadowed orbit is one less than that of a
giant, and minus one is the number of no slot. -/
theorem placeBelts_places (main : World) (wanted : Int)
    (fitted : run.scene.slots.length = run.scene.maxOrbits.toNat)
    (classified : run.scene.star.Classified) :
    ∃ placed filled after, placeBelts main wanted run = .ok placed after ∧
      PlacesUpTo "planetoid belt" "planetoid belts" wanted
        (fun i body => ∃ w, body = .world w ∧ w.IsNewBelt main i) run placed filled after ∧
      (∀ i ∈ filled, ¬run.scene.IsShadowed i → ∀ j, run.scene.IsShadowed j → j ∈ filled) ∧
      ∀ orbit, orbit ∈ (beltCandidates run.scene).preferred ↔
        ∃ i : Nat, orbit = i ∧ run.scene.IsShadowed i := by
  obtain ⟨placed, after, ran, count, journal, orbits, placings, length, picks⟩ :=
    (ends_placeBelts main wanted fitted classified).exists_ok
  have places := PlacesUpTo.of_placings (perm_beltCandidates fitted)
    (by rintro i _ ⟨w, rfl, -⟩; nofun) count journal placings length picks
  have preferred : ∀ orbit, orbit ∈ (beltCandidates run.scene).preferred ↔
      ∃ i : Nat, orbit = i ∧ run.scene.IsShadowed i := fun orbit => mem_shadowedOrbits fitted
  refine ⟨placed, _, after, ran, places.mono ?_, fun i mem lit j shadowed => ?_, preferred⟩
  · rintro i _ - ⟨w, rfl, rolled⟩
    exact ⟨w, rfl, isNewBelt_of_canGive classified rolled⟩
  · refine picks.preferred_subset mem (fun early => lit ?_) ((preferred j).mpr ⟨j, rfl, shadowed⟩)
    obtain ⟨k, same, shadowed'⟩ := (preferred i).mp early
    exact Int.ofNat_inj.mp same ▸ shadowed'

/-- One belt of one finds room around the vacant star. -/
theorem placeBelts_places_vacant : vacantStar.slots.length = vacantStar.maxOrbits.toNat ∧
    vacantStar.star.Classified ∧
    ∃ filled after, placeBelts .regina 1 (⟨⟨(⟨1⟩ : Congruential), []⟩, [], vacantStar⟩ :
        Run Congruential StarSystem) = .ok 1 after ∧
      PlacesUpTo "planetoid belt" "planetoid belts" 1
        (fun i body => ∃ w, body = .world w ∧ w.IsNewBelt .regina i)
        ⟨⟨⟨1⟩, []⟩, [], vacantStar⟩ 1 filled after ∧
      (∀ i ∈ filled, ¬vacantStar.IsShadowed i → ∀ j, vacantStar.IsShadowed j → j ∈ filled) ∧
      ∀ orbit, orbit ∈ (beltCandidates vacantStar).preferred ↔
        ∃ i : Nat, orbit = i ∧ vacantStar.IsShadowed i := by
  have classified : vacantStar.star.Classified := ⟨by decide, by decide⟩
  obtain ⟨placed, filled, after, ran, places, order, preferred⟩ :=
    @placeBelts_places Congruential _ _ ⟨⟨⟨1⟩, []⟩, [], vacantStar⟩ .regina 1 rfl classified
  obtain rfl : placed = 1 := places.count
  exact ⟨rfl, classified, filled, after, ran, places, order, preferred⟩

/-! ## Other worlds -/

end Population

/-- What an undecided slot `i` of a star is filled with: an empty mark up to the hot limit, and a
world beyond it. -/
def Slot.IsFilling (body : Slot) (zones : Zones) (star : String) (i : Nat) : Prop :=
  if (i : Int) ≤ zones.hot then body = .empty i
  else ∃ w, body = .world w ∧ w.IsFiller zones star i

namespace Population

variable {σ : Type} [RandomSource σ]

/-- The empty marks of a star fill the slots up to its hot limit. -/
lemma fills_hot {s : StarSystem} (fitted : s.slots.length = s.maxOrbits.toNat) (zones : Zones) :
    s.Fills {i : Nat | (i : Int) ≤ zones.hot ∧ s.slots[i]? = some .undecided}
      (fun i body => body.IsFilling zones s.name i) (s.markEmpties (Orbit.span 0 (zones.hot + 1))) := by
  have hot : ∀ i : Nat, (i : Int) ∈ Orbit.span 0 (zones.hot + 1) ↔ (i : Int) ≤ zones.hot := by
    intro i
    rw [Orbit.mem_span]
    omega
  have marked := StarSystem.fills_markEmpties fitted (Orbit.span 0 (zones.hot + 1))
  simp only [hot] at marked
  exact marked.mono fun i body mem empty => (if_pos mem.1).mpr empty

variable [Inexhaustible σ] {run : Run σ StarSystem}

/-- **Worlds take what is left.**  Filling a star with at most twenty slots, in any phase before
that, ends and leaves no slot undecided.  Decided slots stay as they are.  Of the undecided ones,
those up to the hot limit are marked to stay empty, and each of the others gets a new world; the
number of these worlds is told.

**Proof sketch.** The marks reach from the innermost orbit to the hot limit and the worlds from
there to the outermost orbit, so that every slot lies in one of both ranges.  Neither step touches a
decided slot. -/
theorem fill_fills (main : World) (fitted : run.scene.slots.length = run.scene.maxOrbits.toNat)
    (few : run.scene.slots.length ≤ 20) (classified : run.scene.star.Classified)
    (may : Phase.filler.mayFollow run.scene.phase = true) :
    ∃ zones count after, run.scene.star.zones = .ok zones ∧ fill main run = .ok count after ∧
      (∀ i : Nat, after.scene.slots[i]? ≠ some .undecided) ∧
      StarSystem.Fills { run.scene with phase := some .filler }
        {i : Nat | run.scene.slots[i]? = some .undecided}
        (fun i body => body.IsFilling zones run.scene.name i) after.scene ∧
      count = {i : Nat | run.scene.slots[i]? = some .undecided ∧ zones.hot < i}.ncard := by
  obtain ⟨zones, zoned⟩ := classified.exists_zones
  obtain ⟨count, after, ran, ⟨orbits, placings, length⟩, done⟩ :=
    (ends_fill main fitted few classified zoned may).exists_ok
  have isWorld : ∀ {i : Nat} {body : Slot}, (zones.hot < i ∧ ∃ w, body = .world w ∧
      (rollWorld run.scene i main : Roll σ World).CanGive w) → body ≠ .undecided := by
    rintro i _ ⟨-, w, rfl, -⟩
    nofun
  have marked := fills_hot (s := { run.scene with phase := some .filler }) fitted zones
  have placed := placings.fills isWorld
  have suits : ∀ (i : Nat) (body : Slot), i ∈ {i : Nat | (i : Int) ∈ orbits} →
      (zones.hot < i ∧ ∃ w, body = .world w ∧
        (rollWorld run.scene i main : Roll σ World).CanGive w) →
      body.IsFilling zones run.scene.name i := by
    rintro i _ mem ⟨beyond, w, rfl, rolled⟩
    have free := (marked.undecided_iff.mp (placed.content i mem).1).1
    have lt : i < run.scene.slots.length := (List.getElem?_eq_some_iff.mp free).1
    exact (if_neg (by omega)).mpr
      ⟨w, rfl, isFiller_of_canGive classified zoned (by omega) rolled⟩
  have both := marked.trans (placed.mono suits)
  have all := both.filled_eq done
  -- the slots with worlds are those that were undecided beyond the hot limit
  have warm : {i : Nat | (i : Int) ∈ orbits} =
      {i : Nat | run.scene.slots[i]? = some .undecided ∧ zones.hot < i} := by
    ext i
    refine ⟨fun mem => ?_, fun ⟨free, beyond⟩ => ?_⟩
    · obtain ⟨-, _, -, -, beyond, -⟩ := placed.content i mem
      exact ⟨(both.content i (.inr mem)).1, beyond⟩
    · have mem := all.symm.subset free
      exact mem.resolve_left fun hot => absurd hot.1 (Int.not_le.mpr beyond)
  refine ⟨zones, count, after, zoned, ran, done, all ▸ both, ?_⟩
  rw [← warm, placings.ncard_eq isWorld, length]

/-- The vacant star is filled. -/
theorem fill_fills_vacant : vacantStar.slots.length = vacantStar.maxOrbits.toNat ∧
    vacantStar.slots.length ≤ 20 ∧ vacantStar.star.Classified ∧
    Phase.filler.mayFollow vacantStar.phase = true ∧
    ∃ zones count after, vacantStar.star.zones = .ok zones ∧
      fill .regina (⟨⟨(⟨1⟩ : Congruential), []⟩, [], vacantStar⟩ : Run Congruential StarSystem) =
        .ok count after ∧
      (∀ i : Nat, after.scene.slots[i]? ≠ some .undecided) ∧
      StarSystem.Fills { vacantStar with phase := some .filler }
        {i : Nat | vacantStar.slots[i]? = some .undecided}
        (fun i body => body.IsFilling zones "Regina" i) after.scene ∧
      count = {i : Nat | vacantStar.slots[i]? = some .undecided ∧ zones.hot < i}.ncard := by
  have classified : vacantStar.star.Classified := ⟨by decide, by decide⟩
  exact ⟨rfl, by decide, classified, rfl, @fill_fills Congruential _ _
    ⟨⟨⟨1⟩, []⟩, [], vacantStar⟩ .regina rfl (by decide) classified rfl⟩

end Population

end Starchart
