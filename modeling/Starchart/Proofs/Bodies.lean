import Starchart.Population.Orbits
import Starchart.Proofs.Settlement

/-!
# Rolled bodies

Worlds, belts, moons and gas giants as the rolls give them.  A world starts raw: it has a name, a
place and its natural digits.  It is then founded, which means settled and surveyed.

## Main definitions

* `Starchart.Name.IsWord` — a name of a single word.
* `Starchart.World.Raw` — a lesser world before it is settled.
* `Starchart.World.Founded` — the world that a raw one becomes.
* `Starchart.Astro.Follows`, `Starchart.World.IsSurveyed` — astrophysical data that is up to date.

## Main results

* `Starchart.Astro.gives_roll` — rolled data follows from the star, the position and the digits.
* `Starchart.World.Founded.inRange`, `Starchart.World.Founded.trade_iff` — the digits and trade
  classes of founded worlds.
* `Starchart.Population.gives_rollWorld`, `Starchart.Population.gives_rollBelt`,
  `Starchart.Population.gives_rollGiant`, `Starchart.Satellite.gives_rollMoon` — what the rolls for
  bodies give.
-/

set_option autoImplicit false

namespace Starchart

/-! ## Stars -/

/-- A star whose subtype has a table column. -/
def Star.Classified (star : Star) : Prop :=
  0 ≤ star.subtype ∧ star.subtype ≤ 9

/-- A classified star has a table column. -/
lemma Star.Classified.exists_column {star : Star} (h : star.Classified) :
    ∃ column, star.column = .ok column := by
  obtain ⟨low, high⟩ := h
  unfold Star.column
  split_ifs with early late
  · exact ⟨_, rfl⟩
  · exact ⟨_, rfl⟩
  · omega

/-- A classified star has zones. -/
lemma Star.Classified.exists_zones {star : Star} (h : star.Classified) :
    ∃ zones, star.zones = .ok zones := by
  obtain ⟨column, hcolumn⟩ := h.exists_column
  exact ⟨_, by rw [Star.zones, hcolumn]; rfl⟩

/-- Zones around a star are an entry of the table. -/
lemma Star.exists_entry {star : Star} {zones : Zones} (zoned : star.zones = .ok zones) :
    ∃ luminosity spectral column, zones = Zones.entry luminosity spectral column := by
  unfold Star.zones at zoned
  cases hcolumn : star.column with
  | ok column =>
    rw [hcolumn] at zoned
    cases zoned
    exact ⟨_, _, column, rfl⟩
  | error e =>
    rw [hcolumn] at zoned
    cases zoned

/-- What lies inside a star lies in its hot zone. -/
lemma Star.inside_le_hot {star : Star} {zones : Zones} (zoned : star.zones = .ok zones) :
    zones.inside ≤ zones.hot := by
  obtain ⟨luminosity, spectral, column, rfl⟩ := exists_entry zoned
  cases luminosity <;> cases spectral <;> cases column <;> decide

/-- A star that reaches no orbit ends right before the first one. -/
lemma Star.neg_one_le_inside {star : Star} {zones : Zones} (zoned : star.zones = .ok zones) :
    -1 ≤ zones.inside := by
  obtain ⟨luminosity, spectral, column, rfl⟩ := exists_entry zoned
  cases luminosity <;> cases spectral <;> cases column <;> decide

/-! ## Astrophysical data -/

namespace Astro

/-- A size digit is small enough to have a mass. -/
lemma hasMass_of_le {size : Int} (le : size ≤ 15) : hasMass size = true := by
  have small : size.toNat ≤ 15 := by omega
  have wide : Nat.pow 15 3 < Nat.pow 8 3 * Decimal.bound := by decide +kernel
  simp only [hasMass, decide_eq_true_eq]
  rw [Decimal.nearestDouble_of_small (by omega)]
  exact Nat.lt_of_le_of_lt (Nat.pow_le_pow_left small 3) wide

/-- A size digit has a mass. -/
lemma exists_massOf {size : Int} (le : size ≤ 15) : ∃ mass, massOf size = .ok mass := by
  unfold massOf
  split
  · exact ⟨0.0, rfl⟩
  · rw [double_of_small (by omega)]
    simp only [bind, Except.bind, hasMass_of_le le, if_true]
    exact ⟨_, rfl⟩

/-- A size digit has a gravity. -/
lemma exists_gravityOf {size : Int} (le : size ≤ 15) :
    ∃ gravity, gravityOf size = .ok gravity := by
  unfold gravityOf
  split
  · exact ⟨0.0, rfl⟩
  · rw [double_of_small (by omega)]
    exact ⟨_, rfl⟩

/-- The quantities of a world of ordinary size and water around a classified star exist. -/
lemma exists_derive {star : Star} {p : Profile} (classified : star.Classified)
    (size : p.size ≤ 15) (hydro : 0 ≤ p.hydro ∧ p.hydro ≤ 15) (position faces : Int) :
    ∃ astro, derive star position p faces = .ok astro := by
  obtain ⟨column, hcolumn⟩ := classified.exists_column
  obtain ⟨mass, hmass⟩ := exists_massOf size
  obtain ⟨gravity, hgravity⟩ := exists_gravityOf size
  have hhydro : double p.hydro = .ok (Float.ofInt p.hydro) := double_of_small (by omega)
  simp only [derive, Star.habitableOrbit, Star.zones, Star.mass, Star.brightness, hcolumn, hmass,
    hgravity, hhydro, Except.map, bind, Except.bind]
  exact ⟨_, rfl⟩

/-- Astrophysical data that follows from the digits of a world and its position around a star: the
quantities for the faces of some two dice, which make no difference outside of the habitable
zone. -/
structure Follows (star : Star) (position : Int) (p : Profile) (astro : Astro) : Prop where
  rolled : ∃ first second : Int, (1 ≤ first ∧ first ≤ 6) ∧ (1 ≤ second ∧ second ≤ 6) ∧
    derive star position p (first + second) = .ok astro
  fixed : star.habitableOrbit ≠ .ok position → ∀ faces, derive star position p faces = .ok astro

/-- Outside of the habitable zone the quantities do not depend on dice. -/
lemma derive_eq_of_ne {star : Star} {position habitable : Int}
    (zoned : star.habitableOrbit = .ok habitable) (elsewhere : position ≠ habitable) (p : Profile)
    (faces faces' : Int) : derive star position p faces = derive star position p faces' := by
  simp only [derive, zoned, bind, Except.bind, if_neg elsewhere]

variable {σ : Type} [RandomSource σ]

/-- The quantities of a world of ordinary size and water around a classified star can be rolled, and
they follow from its digits.

**Proof sketch.** The quantities can be derived whatever the faces of the dice are. On the habitable
orbit two dice are rolled and decide; on any other one the faces make no difference to what is
derived, so that the quantities are fixed there. -/
lemma gives_roll {star : Star} {p : Profile} (classified : star.Classified)
    (size : p.size ≤ 15) (hydro : 0 ≤ p.hydro ∧ p.hydro ≤ 15) (position : Int) :
    (roll star position p : Roll σ Astro).Gives (Follows star position p) := by
  obtain ⟨zones, hzones⟩ := classified.exists_zones
  have hhabitable : star.habitableOrbit = .ok zones.habitableOrbit := by
    rw [Star.habitableOrbit, hzones]
    rfl
  obtain ⟨unrolled, hunrolled⟩ := exists_derive classified size hydro position 0
  refine (Roll.gives_ofExcept (Q := fun astro => astro = unrolled) hunrolled rfl).bind ?_
  rintro unrolled rfl
  refine (Roll.gives_ofExcept (Q := fun orbit => orbit = zones.habitableOrbit) hhabitable rfl).bind ?_
  rintro _ rfl
  split
  · rename_i here
    refine Roll.gives_faces.bind ?_
    rintro _ ⟨first, second, hfirst, hsecond, rfl⟩
    obtain ⟨astro, hastro⟩ := exists_derive classified size hydro position (first + second)
    exact Roll.gives_ofExcept hastro {
      rolled := ⟨first, second, hfirst, hsecond, hastro⟩
      fixed := fun elsewhere => absurd (here ▸ hhabitable) elsewhere }
  · rename_i elsewhere
    have fixed : ∀ faces, derive star position p faces = .ok unrolled := fun faces =>
      (derive_eq_of_ne hhabitable elsewhere p faces 0).trans hunrolled
    exact Roll.gives_pure {
      rolled := ⟨1, 1, by decide, by decide, fixed _⟩
      fixed := fun _ => fixed }

end Astro

/-! ## Names -/

namespace Name

/-- An orbit of a star with at most twenty orbits has a designation. -/
lemma exists_designation (star : String) {orbit : Int} (nonneg : 0 ≤ orbit) (lt : orbit < 20) :
    ∃ name, designation star orbit = .ok name := by
  have numeral : 0 ≤ orbit + 1 ∧ orbit + 1 ≤ 20 := by omega
  exact ⟨_, by rw [designation, roman, if_pos numeral]; rfl⟩

/-- A name of a single word, without a blank. -/
def IsWord (name : String) : Prop := ' ' ∉ name.toList

/-- Two words written together are one word. -/
lemma IsWord.append {first second : String} (h : IsWord first) (h' : IsWord second) :
    IsWord (first ++ second) := by
  simp only [IsWord, String.toList_append, List.mem_append]
  exact fun mem => mem.elim h h'

/-- Nothing but a blank becomes one when it is capitalised. -/
lemma toUpper_ne_blank {c : Char} (ne : c ≠ ' ') : c.toUpper ≠ ' ' := by
  unfold Char.toUpper
  split
  · rename_i small
    intro same
    -- small letters are shifted by a fixed amount, and the blank is not among the results
    have code := congrArg (fun d : Char => d.val.toNat) same
    have shift : ('A'.val - 'a'.val).toNat = 4294967264 := by decide
    have blank : ' '.val.toNat = 32 := by decide
    have low : 97 ≤ c.val.toNat := small.1
    have wide := c.val.toNat_lt
    rw [UInt32.toNat_add, shift, blank] at code
    omega
  · exact ne

/-- A word is one also with a capital letter. -/
lemma IsWord.capitalise {name : String} (h : IsWord name) : IsWord (capitalise name) := by
  unfold Name.capitalise
  unfold IsWord at h
  split
  · exact List.not_mem_nil
  · rename_i c rest letters
    rw [letters, List.mem_cons, not_or] at h
    rw [IsWord, String.toList_ofList, List.mem_cons, not_or]
    exact ⟨(toUpper_ne_blank (Ne.symm h.1)).symm, h.2⟩

/-- A designation is no word: a blank stands before its numeral. -/
lemma not_isWord_of_designation {star name : String} {orbit : Int}
    (designated : designation star orbit = .ok name) : ¬IsWord name := by
  unfold designation at designated
  cases hnumeral : roman (orbit + 1) with
  | error e =>
    rw [hnumeral] at designated
    cases designated
  | ok numeral =>
    rw [hnumeral] at designated
    cases designated
    simp [IsWord]

variable {σ : Type} [RandomSource σ]

/-- Syllables can be rolled, and make a word. -/
lemma gives_stem (count : Nat) : (stem count : Roll σ String).Gives IsWord := by
  have words : ∀ syllable ∈ syllables, IsWord syllable := by
    unfold IsWord
    decide
  induction count with
  | zero => exact Roll.gives_pure List.not_mem_nil
  | succ count ih =>
    exact (Roll.gives_choice (by decide)).bind fun first mem => ih.bind fun rest word =>
      Roll.gives_pure ((words first mem).append word)

/-- Proper names can be rolled, and are words. -/
lemma gives_proper (count : Nat) : (proper count : Roll σ String).Gives IsWord :=
  (gives_stem count).bind fun _ word => Roll.gives_pure word.capitalise

/-- Names of stars can be rolled. -/
lemma gives_star : (star : Roll σ String).Gives fun _ => True := by
  refine (Roll.gives_index (by decide)).bind fun style _ => ?_
  split
  · exact (Roll.gives_index (by decide)).bind fun extra _ =>
      (gives_proper _).mono fun _ _ => trivial
  · refine (gives_proper 2).bind fun name _ => ?_
    refine (Roll.gives_index (by decide)).bind fun column _ => ?_
    exact (Roll.gives_index (by decide)).bind fun row _ => Roll.gives_pure trivial
  · refine (Roll.gives_choice (by decide)).bind fun catalogue _ => ?_
    exact (Roll.gives_index (by decide)).bind fun entry _ => Roll.gives_pure trivial

/-- Names of settled worlds can be rolled, and are words. -/
lemma gives_planet : (planet : Roll σ String).Gives IsWord := by
  have words : ∀ ending ∈ planetEndings, IsWord ending := by
    unfold IsWord
    decide
  refine (Roll.gives_index (by decide)).bind fun extra _ => ?_
  refine (gives_proper _).bind fun name word => ?_
  exact (Roll.gives_choice (by decide)).bind fun ending mem =>
    Roll.gives_pure (word.append (words ending mem))

/-- Names of moons can be rolled, and are words. -/
lemma gives_moon : (moon : Roll σ String).Gives IsWord := by
  have words : ∀ part ∈ moonStems ++ moonEndings, IsWord part := by
    unfold IsWord
    decide
  refine (Roll.gives_choice (by decide)).bind fun first mem => ?_
  refine (Roll.gives_choice (by decide)).bind fun second mem' => Roll.gives_pure ?_
  exact (words first (List.mem_append_left _ mem)).append
    (words second (List.mem_append_right _ mem'))

end Name

/-! ## Founding worlds -/

namespace World

/-- A lesser world before it is settled: it is nobody's main world, has no satellites, and only its
natural digits are known. -/
structure Raw (w main : World) : Prop where
  isMain : w.isMain = false
  satellites : w.satellites = []
  size : leastSize w.isSatellite ≤ w.profile.size ∧ w.profile.size ≤ 15
  atmosphere : 0 ≤ w.profile.atmosphere ∧ w.profile.atmosphere ≤ 10
  hydro : 0 ≤ w.profile.hydro ∧ w.profile.hydro ≤ 10
  population : 0 ≤ w.profile.population ∧
    w.profile.population ≤ max 0 (main.profile.population - 1)
  unsettled : w.profile.government = 0 ∧ w.profile.law = 0 ∧ w.profile.tech = 0

/-- The digits of a raw world are in range. -/
lemma Raw.inRange {main w : World} {least : Int} (raw : w.Raw main)
    (charted : main.profile.InRange least) : w.profile.InRange (leastSize w.isSatellite) := by
  obtain ⟨government, law, tech⟩ := raw.unsettled
  have := raw.population
  have := charted.population
  have := raw.atmosphere
  have := raw.hydro
  exact ⟨raw.size, by omega, by omega, by omega, by omega, by omega, by omega⟩

/-- The world that `raw` becomes when it is settled around a star and then surveyed. -/
inductive Founded (σ : Type) [RandomSource σ] (main : World) (star : Star) (raw : World) :
    World → Prop
  | intro {zones : Zones} {d : Settlement.Draws} {astro : Astro} (zoned : star.zones = .ok zones)
      (allowed : d.Allowed raw.profile.population main)
      (surveyed : (Astro.roll star raw.position (Settlement.settled raw zones main d).profile :
        Roll σ Astro).CanGive astro) :
      Founded σ main star raw { Settlement.settled raw zones main d with astro := some astro }

/-- A world whose astrophysical data is up to date: it has some, which follows from the digits and
the position of the world around a star. -/
def IsSurveyed (w : World) (star : Star) : Prop :=
  ∃ astro, w.astro = some astro ∧ astro.Follows star w.position w.profile

namespace Founded

variable {σ : Type} [RandomSource σ] {main raw w : World} {star : Star}

/-- Founding a world changes only digits, facilities, trade classes and astrophysical data. -/
lemma frame (h : Founded σ main star raw w) :
    w = { raw with
      profile := w.profile, facilities := w.facilities, trade := w.trade, astro := w.astro } := by
  cases h
  rfl

/-- Founding a world keeps its natural digits. -/
lemma profile_eq (h : Founded σ main star raw w) :
    w.profile = { raw.profile with
      port := w.profile.port, government := w.profile.government, law := w.profile.law
      tech := w.profile.tech } := by
  cases h
  rfl

/-- The digits of a founded world are in range. -/
lemma inRange {least : Int} (h : Founded σ main star raw w) (isRaw : raw.Raw main)
    (charted : main.profile.InRange least) : w.profile.InRange (leastSize w.isSatellite) := by
  cases h with
  | @intro zones d astro zoned allowed surveyed =>
    exact Settlement.inRange_settled zones allowed (isRaw.inRange charted) charted.tech

/-- The trade classes of a founded world are those of its digits, unless a laboratory made a settled
place high-tech. -/
lemma trade_iff (h : Founded σ main star raw w) :
    w.trade = w.profile.tradeClasses w.isMain ↔
      ¬(.lab ∈ w.facilities ∧ 0 < w.profile.population ∧ main.profile.tech = 12) := by
  cases h with
  | intro zoned allowed surveyed => exact Settlement.settled_trade_iff allowed

/-- The astrophysical data of a founded world is up to date. -/
lemma isSurveyed {least : Int} (h : Founded σ main star raw w) (isRaw : raw.Raw main)
    (charted : main.profile.InRange least) (classified : star.Classified) : w.IsSurveyed star := by
  have digits := h.inRange isRaw charted
  cases h with
  | intro zoned allowed surveyed =>
    exact ⟨_, rfl, (Astro.gives_roll classified digits.size.2 digits.hydro
      raw.position).of_canGive surveyed⟩

end Founded

variable {σ : Type} [RandomSource σ]

/-- Settling and surveying a raw world gives a founded one. -/
lemma gives_found {main raw : World} {star : Star} {zones : Zones} (isRaw : raw.Raw main)
    (classified : star.Classified) (zoned : star.zones = .ok zones) :
    (do let w ← Settlement.settle raw zones main; w.surveyed star : Roll σ World).Gives
      (Founded σ main star raw) := by
  refine (Settlement.gives_settle raw zones main).bind ?_
  rintro _ ⟨d, allowed, rfl⟩
  -- settling leaves size and water alone
  have size : (Settlement.settled raw zones main d).profile.size ≤ 15 := isRaw.size.2
  have hydro : 0 ≤ (Settlement.settled raw zones main d).profile.hydro ∧
      (Settlement.settled raw zones main d).profile.hydro ≤ 15 :=
    ⟨isRaw.hydro.1, Int.le_trans isRaw.hydro.2 (by decide)⟩
  refine (Astro.gives_roll classified size hydro raw.position).canGive.bind fun astro hastro => ?_
  exact Roll.gives_pure (.intro zoned allowed hastro.2)

end World

/-! ## Moons -/

namespace Satellite

variable {σ : Type} [RandomSource σ]

/-- The atmospheres that a roll for a moon may give. -/
lemma gives_rollAtmosphere (s : Setting) (size : Int) :
    (rollAtmosphere s size : Roll σ Int).Gives fun a => 0 ≤ a ∧ a ≤ 10 := by
  refine Roll.gives_twoD6.bind fun roll _ => Roll.gives_pure ?_
  split_ifs <;> omega

/-- The hydrographics that a roll may give: none for a body without size or in the inner zone. -/
lemma gives_rollHydro (s : Setting) (size atmosphere : Int) :
    (rollHydro s size atmosphere : Roll σ Int).Gives fun hydro =>
      (0 ≤ hydro ∧ hydro ≤ 10) ∧ (size ≤ 0 ∨ s.isInner = true → hydro = 0) := by
  refine Roll.gives_twoD6.bind fun roll _ => Roll.gives_pure ?_
  split
  · exact ⟨by decide, fun _ => rfl⟩
  · rename_i wet
    exact ⟨by omega, fun dry => absurd dry wet⟩

/-- The populations that a roll for a moon may give. -/
lemma gives_rollPopulation (s : Setting) (atmosphere : Int) (main : World) :
    (rollPopulation s atmosphere main : Roll σ Int).Gives fun population =>
      0 ≤ population ∧ population ≤ max 0 (main.profile.population - 1) :=
  Roll.gives_twoD6.bind fun _ _ => Roll.gives_pure (Settlement.clampPopulation_range _ main)

/-- A moon of a given size on a given orbit before it is settled. -/
def rawMoon (s : Setting) (orbit : Int) (name : String) (size atmosphere hydro population : Int) :
    World :=
  { name := name
    orbit := orbit
    position := s.position
    profile := { size := size, atmosphere := atmosphere, hydro := hydro, population := population }
    isSatellite := true }

/-- A rolled moon is founded on a raw one of the given size and orbit. -/
theorem gives_rollMoon {s : Setting} (main : World) {size : Int}
    (classified : s.star.Classified) (zoned : s.star.zones = .ok s.zones)
    (low : -1 ≤ size) (high : size ≤ 15) (orbit : Int) :
    (rollMoon s main size orbit : Roll σ World).Gives fun w =>
      ∃ name atmosphere hydro population, (Name.moon : Roll σ String).CanGive name ∧
        (rawMoon s orbit name size atmosphere hydro population).Raw main ∧
        World.Founded σ main s.star (rawMoon s orbit name size atmosphere hydro population) w := by
  refine (gives_rollAtmosphere s size).bind fun atmosphere hatmosphere => ?_
  refine (gives_rollHydro s size atmosphere).bind fun hydro hhydro => ?_
  refine (gives_rollPopulation s atmosphere main).bind fun population hpopulation => ?_
  refine Name.gives_moon.canGive.bind fun name hname => ?_
  have isRaw : (rawMoon s orbit name size atmosphere hydro population).Raw main :=
    ⟨rfl, rfl, ⟨low, high⟩, hatmosphere, hhydro.1, hpopulation, rfl, rfl, rfl⟩
  exact (World.gives_found isRaw classified zoned).mono fun w hw =>
    ⟨name, atmosphere, hydro, population, hname.2, isRaw, hw⟩

end Satellite

/-! ## Planets, belts and gas giants -/

namespace Population

variable {σ : Type} [RandomSource σ]

/-- The atmospheres that a roll for a world may give. -/
lemma gives_rollAtmosphere (s : Satellite.Setting) (size : Int) :
    (rollAtmosphere s size : Roll σ Int).Gives fun a => 0 ≤ a ∧ a ≤ 10 := by
  refine Roll.gives_twoD6.bind fun runaway _ => Roll.gives_twoD6.bind fun roll _ => ?_
  refine Roll.gives_pure ?_
  split_ifs <;> omega

/-- Populations can be rolled. -/
lemma gives_rollSettlers (s : Satellite.Setting) :
    (rollSettlers s : Roll σ Int).Gives fun _ => True :=
  Roll.gives_twoD6.bind fun _ _ => Roll.gives_pure trivial

/-- The name of a world can be rolled on any of twenty orbits. -/
lemma gives_rollName (star : String) {orbit : Int} (population : Int) (nonneg : 0 ≤ orbit)
    (lt : orbit < 20) : (rollName star orbit population : Roll σ String).Gives fun _ => True := by
  unfold rollName
  split
  · exact Name.gives_planet.mono fun _ _ => trivial
  · obtain ⟨name, hname⟩ := Name.exists_designation star nonneg lt
    exact Roll.gives_ofExcept hname trivial

/-- A world or belt on an orbit of a star before it is settled. -/
def rawPlanet (orbit : Int) (name : String) (size atmosphere hydro population : Int) : World :=
  { name := name
    orbit := orbit
    position := orbit
    profile := {
      size := size, atmosphere := atmosphere, hydro := hydro, population := population } }

/-- A rolled world is founded on a raw one on its orbit, of a size up to ten, and dry if it has no
size or lies in the inner zone.

**Proof sketch.** The rolls are followed in order. The size is cut off at zero and the penalty is
none below it, so it is at most ten; atmosphere and water keep the ranges of their own rolls; the
population is clamped. With these the raw world is in range, and finding the rest keeps to it. The
water is rolled as none where the size is zero or the orbit is no farther out than the inner
zone. -/
theorem gives_rollWorld {s : StarSystem} (main : World) {orbit : Int}
    (classified : s.star.Classified) (nonneg : 0 ≤ orbit) (lt : orbit < 20) :
    (rollWorld s orbit main : Roll σ World).Gives fun w =>
      ∃ name size atmosphere hydro population,
        (rollName s.name orbit population : Roll σ String).CanGive name ∧
        (rawPlanet orbit name size atmosphere hydro population).Raw main ∧
        World.Founded σ main s.star (rawPlanet orbit name size atmosphere hydro population) w ∧
        size ≤ 10 ∧ ∀ {zones : Zones}, s.star.zones = .ok zones →
          size = 0 ∨ orbit ≤ zones.inner → hydro = 0 := by
  obtain ⟨zones, zoned⟩ := classified.exists_zones
  refine (Roll.gives_ofExcept (Q := fun z => z = zones) zoned rfl).bind ?_
  rintro zones rfl
  refine Roll.gives_twoD6.bind fun roll hroll => ?_
  have hsize : 0 ≤ max 0 (roll - 2 - sizePenalty s.star.spectral orbit) ∧
      max 0 (roll - 2 - sizePenalty s.star.spectral orbit) ≤ 10 := by
    have : 0 ≤ sizePenalty s.star.spectral orbit := by
      unfold sizePenalty
      split_ifs <;> omega
    omega
  generalize max 0 (roll - 2 - sizePenalty s.star.spectral orbit) = size at hsize ⊢
  refine (gives_rollAtmosphere _ size).bind fun atmosphere hatmosphere => ?_
  refine (Satellite.gives_rollHydro _ size atmosphere).bind fun hydro ⟨hhydro, dry⟩ => ?_
  refine (gives_rollSettlers _).bind fun settlers _ => ?_
  have hpopulation := Settlement.clampPopulation_range
    (settlers - if Satellite.isSettled atmosphere then 0 else 2) main
  generalize Settlement.clampPopulation
    (settlers - if Satellite.isSettled atmosphere then 0 else 2) main = population at hpopulation ⊢
  refine (gives_rollName s.name population nonneg lt).canGive.bind fun name hname => ?_
  have isRaw : (rawPlanet orbit name size atmosphere hydro population).Raw main :=
    ⟨rfl, rfl, ⟨hsize.1, Int.le_trans hsize.2 (by decide)⟩, hatmosphere, hhydro, hpopulation,
      rfl, rfl, rfl⟩
  refine (World.gives_found isRaw classified zoned).mono fun w hw =>
    ⟨name, size, atmosphere, hydro, population, hname.2, isRaw, hw, hsize.2, ?_⟩
  intro zones' zoned' cause
  obtain rfl : zones = zones' := Except.ok.inj (zoned.symm.trans zoned')
  exact dry (cause.imp Int.le_of_eq decide_eq_true)

/-- A rolled belt is founded on a raw one on its orbit. -/
theorem gives_rollBelt {s : StarSystem} (main : World) (classified : s.star.Classified)
    (orbit : Int) :
    (rollBelt s orbit main : Roll σ World).Gives fun w =>
      ∃ population, (rawPlanet orbit Name.belt 0 0 0 population).Raw main ∧
        World.Founded σ main s.star (rawPlanet orbit Name.belt 0 0 0 population) w := by
  obtain ⟨zones, zoned⟩ := classified.exists_zones
  refine (Roll.gives_ofExcept (Q := fun z => z = zones) zoned rfl).bind ?_
  rintro _ rfl
  refine (gives_rollSettlers _).bind fun settlers _ => ?_
  have hpopulation := Settlement.clampPopulation_range settlers main
  generalize Settlement.clampPopulation settlers main = population at hpopulation ⊢
  have zero : (0 : Int) ≤ 0 ∧ (0 : Int) ≤ 10 := by decide
  have isRaw : (rawPlanet orbit Name.belt 0 0 0 population).Raw main :=
    ⟨rfl, rfl, ⟨zero.1, Int.le_trans zero.2 (by decide)⟩, zero, zero, hpopulation, rfl, rfl, rfl⟩
  exact (World.gives_found isRaw classified zoned).mono fun w hw => ⟨_, isRaw, hw⟩

/-- A rolled gas giant is named after its orbit and has no satellites yet. -/
theorem gives_rollGiant {s : StarSystem} {orbit : Int} (nonneg : 0 ≤ orbit) (lt : orbit < 20) :
    (rollGiant s orbit : Roll σ Slot).Gives fun content =>
      ∃ g : GasGiant, content = .giant g ∧ g.orbit = orbit ∧ g.satellites = [] ∧
        Name.designation s.name orbit = .ok g.name := by
  refine Roll.gives_d6.bind fun roll _ => ?_
  obtain ⟨name, hname⟩ := Name.exists_designation s.name nonneg lt
  refine (Roll.gives_ofExcept (Q := fun n => n = name) hname rfl).bind ?_
  rintro _ rfl
  exact Roll.gives_pure ⟨_, rfl, rfl, rfl, hname⟩

end Population

end Starchart
