import Mathlib.Data.List.Perm.Subperm
import Starchart.Proofs.Fillings

/-!
# The orbits of one star

The phases that decide the slots of a star never fail on a sound one, and each enters its phase and
then makes decisions.  The last of them leaves nothing undecided.  Bodies whose number is rolled take
picked orbits, and the preferred ones are used up first.

## Main definitions

* `Starchart.Population.Candidates.Open` — orbits to pick from that are all undecided.
* `Starchart.Population.Candidates.Picks` — orbits picked one after the other.

## Main results

* `Starchart.Population.ends_placeUpTo` — how many bodies are placed, where, and what is recorded.
* `Starchart.Population.perm_giantCandidates`, `Starchart.Population.perm_beltCandidates` — the orbits
  to pick from are the undecided ones.
* `Starchart.Population.ends_fillOrbits` — worlds for the orbits that are left.
* `Starchart.Population.ends_seedEmpties`, `Starchart.Population.ends_seedGiants`,
  `Starchart.Population.ends_seedBelts` — the three seeding phases.
* `Starchart.Population.ends_fill` — the phase that fills what is left.
-/

set_option autoImplicit false

namespace Starchart.Population

open StarSystem (Decisions Placings)

variable {σ : Type} [RandomSource σ]

/-! ## Counts -/

/-- The number of orbits that stay empty can be rolled. -/
lemma gives_rollEmpties : (rollEmpties : Roll σ Nat).Gives fun _ => True := by
  refine Roll.gives_d6.bind fun first _ => ?_
  split
  · exact Roll.gives_pure trivial
  · exact Roll.gives_d6.bind fun second _ => Roll.gives_pure trivial

/-- The number of gas giants can be rolled. -/
lemma gives_rollGiants : (rollGiants : Roll σ Int).Gives fun _ => True := by
  refine Roll.gives_twoD6.bind fun first _ => ?_
  split
  · exact Roll.gives_pure trivial
  · exact Roll.gives_twoD6.bind fun second _ => Roll.gives_pure trivial

/-- The number of belts can be rolled. -/
lemma gives_rollBelts (giants : Int) : (rollBelts giants : Roll σ Int).Gives fun _ => True := by
  refine Roll.gives_twoD6.bind fun first _ => ?_
  split
  · exact Roll.gives_pure trivial
  · exact Roll.gives_twoD6.bind fun second _ => Roll.gives_pure trivial

/-! ## Entering phases -/

/-- A phase that may follow is entered. -/
lemma ends_enter {phase : Phase} {run : Run σ StarSystem} {Q : Unit → Run σ StarSystem → Prop}
    (may : phase.mayFollow run.scene.phase = true) :
    (enter phase : Gen σ StarSystem Unit).Ends run Q ↔
      Q () { run with scene := { run.scene with phase := some phase } } :=
  Gen.ends_attempt (if_pos may)

/-- Entering a phase leaves a star alike. -/
lemma alike_enter (s : StarSystem) (phase : Phase) : s.Alike { s with phase := some phase } :=
  ⟨rfl, rfl, rfl, rfl, rfl, rfl, rfl⟩

/-! ## Empty orbits -/

/-- Marking random orbits makes decisions. -/
lemma ends_markRandom (main : World) (count : Nat) (run : Run σ StarSystem) :
    (markRandom count : Gen σ StarSystem Nat).Ends run fun _ after =>
      Decisions σ main run.scene after.scene := by
  induction count generalizing run with
  | zero => exact .refl
  | succ count ih =>
    simp only [markRandom, Gen.ends_bind, Gen.ends_scene]
    split
    · exact .refl
    · rename_i some
      have some : run.scene.undecidedOrbits ≠ [] := by simpa using some
      rw [Gen.ends_bind]
      refine Gen.ends_roll (Roll.gives_choice some) fun orbit dice _ => ?_
      simp only [Gen.ends_bind, Gen.ends_change]
      exact (ih _).mono fun marked after rest =>
        (StarSystem.decisions_markEmpty main run.scene orbit).trans rest

/-- Seeding the empty orbits enters its phase and makes decisions. -/
theorem ends_seedEmpties (main : World) {run : Run σ StarSystem}
    (may : Phase.emptySeed.mayFollow run.scene.phase = true) :
    (seedEmpties : Gen σ StarSystem Nat).Ends run fun _ after =>
      Decisions σ main { run.scene with phase := some .emptySeed } after.scene := by
  rw [seedEmpties, Gen.ends_bind, ends_enter may, Gen.ends_bind]
  refine Gen.ends_roll gives_rollEmpties fun count dice _ => ?_
  rw [Gen.ends_bind]
  refine (ends_markRandom main count _).mono fun marked after decisions => ?_
  simpa only [Gen.ends_bind, Gen.ends_scene, Gen.ends_record, Gen.ends_pure] using decisions

/-! ## Picking orbits -/

namespace Candidates

/-- The orbits to pick from, the preferred ones first. -/
def all (c : Candidates) : List Int := c.preferred ++ c.others

/-- Orbits to pick from that are all undecided, none of them listed twice. Each pick then finds a
slot to place a body in, and what is left is open again. -/
structure Open (c : Candidates) (s : StarSystem) : Prop where
  nodup : c.all.Nodup
  undecided : ∀ orbit ∈ c.all, s.isUndecided orbit = true

/-- Orbits picked one after the other: the others are not touched before the preferred ones are used
up. It does not matter which of them the dice chose. -/
structure Picks (c : Candidates) (orbits : List Int) : Prop where
  subset : orbits ⊆ c.all
  order : orbits ⊆ c.preferred ∨ c.preferred ⊆ orbits

variable {c c' : Candidates} {s : StarSystem}

/-- There are as many candidates as counted. -/
lemma length_all (c : Candidates) : c.all.length = c.count := List.length_append

/-- A pick takes one orbit out of the candidates, and out of the preferred ones if there are any. -/
lemma gives_pick (some : 0 < c.count) :
    (c.pick : Roll σ (Int × Candidates)).Gives fun picked =>
      (picked.1 :: picked.2.all).Perm c.all ∧
        (c.preferred = [] ∨ (picked.1 :: picked.2.preferred).Perm c.preferred) := by
  obtain ⟨preferred, others⟩ := c
  cases preferred with
  | nil =>
    refine (Roll.gives_index (by simpa [count] using some)).bind fun i _ => Roll.gives_pure ?_
    exact ⟨List.getElem_cons_eraseIdx_perm i.isLt, .inl rfl⟩
  | cons first rest =>
    refine (Roll.gives_index (Nat.succ_pos _)).bind fun i _ => Roll.gives_pure ?_
    have taken : ((first :: rest).get i :: (first :: rest).eraseIdx i).Perm (first :: rest) :=
      List.getElem_cons_eraseIdx_perm i.isLt
    exact ⟨taken.append_right others, .inr taken⟩

/-- Nothing needs to be picked. -/
lemma Picks.nil (c : Candidates) : c.Picks [] :=
  ⟨List.nil_subset _, .inl (List.nil_subset _)⟩

/-- After the first pick, the picks go on among what it left over. -/
lemma Picks.cons {orbit : Int} {orbits : List Int} (picks : c'.Picks orbits)
    (picked : (orbit :: c'.all).Perm c.all)
    (first : c.preferred = [] ∨ (orbit :: c'.preferred).Perm c.preferred) :
    c.Picks (orbit :: orbits) where
  subset := List.Subset.trans (List.cons_subset_cons orbit picks.subset) picked.subset
  order := by
    rcases first with none | taken
    · exact .inr (none ▸ List.nil_subset _)
    · refine picks.order.imp (fun early => ?_) fun late => ?_
      · exact List.Subset.trans (List.cons_subset_cons orbit early) taken.subset
      · exact List.Subset.trans taken.symm.subset (List.cons_subset_cons orbit late)

/-- Once another orbit is picked, all preferred ones have been. -/
lemma Picks.preferred_subset {orbits : List Int} (picks : c.Picks orbits) {orbit : Int}
    (mem : orbit ∈ orbits) (other : orbit ∉ c.preferred) : c.preferred ⊆ orbits :=
  picks.order.resolve_left fun early => other (early mem)

/-- As many picks as there are candidates take them all. -/
lemma Picks.mem_of_length {orbits : List Int} (picks : c.Picks orbits) (nodup : orbits.Nodup)
    (enough : c.count ≤ orbits.length) {orbit : Int} (mem : orbit ∈ c.all) : orbit ∈ orbits := by
  have sub := List.subperm_of_subset nodup picks.subset
  rw [← length_all] at enough
  exact (sub.perm_of_length_le enough).mem_iff.mpr mem

/-- The undecided orbits of a star are open, in any order. -/
lemma Open.of_perm (fitted : s.slots.length = s.maxOrbits.toNat)
    (perm : c.all.Perm s.undecidedOrbits) : c.Open s where
  nodup := perm.nodup_iff.mpr StarSystem.nodup_undecidedOrbits
  undecided _ mem :=
    (StarSystem.isUndecided_iff fitted).mpr (StarSystem.mem_undecidedOrbits.mp (perm.subset mem))

/-- The candidates that a pick leaves over stay open when the picked orbit is decided. -/
lemma Open.rest {i : Nat} (isOpen : c.Open s) (fitted : s.slots.length = s.maxOrbits.toNat)
    (picked : ((i : Int) :: c'.all).Perm c.all) (content : Slot) :
    c'.Open { s with slots := s.slots.set i content } := by
  have nodup := picked.nodup_iff.mpr isOpen.nodup
  refine ⟨nodup.of_cons, fun orbit hmem => ?_⟩
  obtain ⟨j, rfl, free⟩ := StarSystem.held_of_isUndecided
    (isOpen.undecided orbit (picked.subset (List.mem_cons_of_mem _ hmem)))
  have other : i ≠ j := by
    rintro rfl
    exact (List.nodup_cons.mp nodup).1 hmem
  refine (StarSystem.isUndecided_iff ?_).mpr ⟨j, rfl, (List.getElem?_set_ne other).trans free⟩
  simpa using fitted

end Candidates

/-! ## Placing bodies -/

section Placing

variable {mainName : String} {roll : StarSystem → Int → Roll σ Slot} {s : StarSystem}
  {Suits : Nat → Slot → Prop} {c : Candidates} {run : Run σ StarSystem}

/-- Placing rolled bodies on open candidates fills picked slots, and no placement is refused.

**Proof sketch.** By induction on the number of bodies. The orbit that is picked is an open
candidate, so its slot is undecided and the placement is not refused. The star with this body is
alike to the one of before, the other candidates are still open, and there is room for one body
less. -/
lemma ends_placeEach
    (rolls : ∀ {t : StarSystem} {i : Nat}, s.Alike t → t.slots[i]? = some .undecided →
      (roll t i).Gives fun body => body.stamp i = body ∧ Suits i body)
    (count : Nat) (alike : s.Alike run.scene)
    (fitted : run.scene.slots.length = run.scene.maxOrbits.toNat) (isOpen : c.Open run.scene)
    (room : count ≤ c.count) :
    (placeEach mainName roll count c).Ends run fun _ after =>
      after.journal = run.journal ∧ ∃ orbits, Placings Suits orbits run.scene after.scene ∧
        orbits.length = count ∧ c.Picks orbits := by
  induction count generalizing c run with
  | zero => exact ⟨rfl, [], .nil _, rfl, .nil c⟩
  | succ count ih =>
    simp only [placeEach, Gen.ends_bind]
    refine Gen.ends_roll (Candidates.gives_pick (by omega)) ?_
    rintro ⟨orbit, rest⟩ dice ⟨picked, first⟩
    have mem : orbit ∈ c.all := picked.subset List.mem_cons_self
    obtain ⟨i, rfl, free⟩ := StarSystem.held_of_isUndecided (isOpen.undecided orbit mem)
    rw [Gen.ends_scene]
    refine Gen.ends_roll (rolls alike free) ?_
    rintro body dice ⟨stamped, suits⟩
    rw [Gen.ends_attempt (StarSystem.place_eq fitted mainName free stamped)]
    have room : count ≤ rest.count := by
      have := picked.length_eq
      rw [List.length_cons, Candidates.length_all, Candidates.length_all] at this
      dsimp only at this
      omega
    refine (ih (alike.trans (StarSystem.alike_set _ _ _)) ?_ (isOpen.rest fitted picked body)
      room).mono ?_
    · simpa using fitted
    · rintro _ after ⟨silent, orbits, placed, length, picks⟩
      exact ⟨silent, i :: orbits, .cons free suits placed, congrArg (· + 1) length,
        picks.cons picked first⟩

/-- Placing as many bodies as there is room for fills that many picked slots, and a shortfall is
recorded. -/
theorem ends_placeUpTo
    (rolls : ∀ {t : StarSystem} {i : Nat}, run.scene.Alike t → t.slots[i]? = some .undecided →
      (roll t i).Gives fun body => body.stamp i = body ∧ Suits i body)
    (body plural : String) (wanted : Int)
    (fitted : run.scene.slots.length = run.scene.maxOrbits.toNat) (isOpen : c.Open run.scene) :
    (placeUpTo mainName body plural roll c wanted).Ends run fun placed after =>
      placed = max 0 (min wanted c.count) ∧
      after.journal = run.journal ++
        (if placed < wanted then
          [.diagnosed (shortfall run.scene.name body plural wanted placed)] else []) ∧
      ∃ orbits, Placings Suits orbits run.scene after.scene ∧ (orbits.length : Int) = placed ∧
        c.Picks orbits := by
  simp only [placeUpTo, Gen.ends_bind]
  refine (ends_placeEach rolls _ (.refl _) fitted isOpen (Nat.min_le_right _ _)).mono ?_
  rintro _ after ⟨silent, orbits, placed, length, picks⟩
  have count : ((min wanted.toNat c.count : Nat) : Int) = max 0 (min wanted c.count) := by omega
  split
  · rename_i short
    simp only [Gen.ends_bind, Gen.ends_scene, Gen.ends_diagnose, Gen.ends_pure]
    refine ⟨count, ?_, orbits, placed, congrArg Nat.cast length, picks⟩
    rw [if_pos short, silent, placed.alike.name]
  · rename_i enough
    refine ⟨count, ?_, orbits, placed, congrArg Nat.cast length, picks⟩
    rw [if_neg enough, silent, List.append_nil]

end Placing

/-! ## Gas giants -/

section Giants

/-- The orbits to pick from for gas giants are the undecided ones. -/
lemma perm_giantCandidates (s : StarSystem) (zones : Zones) :
    (giantCandidates s zones).all.Perm s.undecidedOrbits := by
  have inner : (giantCandidates s zones).others =
      s.undecidedOrbits.filter fun orbit => !decide (zones.habitable ≤ orbit) :=
    List.filter_congr fun orbit _ => by rw [← decide_not, decide_eq_decide, Int.not_le]
  rw [Candidates.all, inner]
  exact List.filter_append_perm _ _

/-- Placing gas giants fills picked slots with rolled ones. -/
theorem ends_placeGiants (mainName : String) (wanted : Int) {run : Run σ StarSystem} {zones : Zones}
    (fitted : run.scene.slots.length = run.scene.maxOrbits.toNat)
    (few : run.scene.slots.length ≤ 20) (zoned : run.scene.star.zones = .ok zones) :
    (placeGiants mainName wanted : Gen σ StarSystem Int).Ends run fun placed after =>
      placed = max 0 (min wanted (giantCandidates run.scene zones).count) ∧
      after.journal = run.journal ++
        (if placed < wanted then
          [.diagnosed (shortfall run.scene.name "gas giant" "gas giants" wanted placed)] else []) ∧
      ∃ orbits, Placings (fun i body => ∃ g, body = .giant g ∧
          (rollGiant run.scene i : Roll σ Slot).CanGive (.giant g)) orbits run.scene after.scene ∧
        (orbits.length : Int) = placed ∧ (giantCandidates run.scene zones).Picks orbits := by
  rw [placeGiants, Gen.ends_bind, Gen.ends_scene, Gen.ends_bind, Gen.ends_ofExcept zoned]
  refine ends_placeUpTo (fun {t i} alike free => ?_) _ _ wanted fitted
    (.of_perm fitted (perm_giantCandidates _ zones))
  have lt : i < 20 := by
    have := (List.getElem?_eq_some_iff.mp free).1
    have := alike.length
    omega
  refine (gives_rollGiant (by omega) (by omega)).canGive.mono ?_
  rintro _ ⟨⟨g, rfl, numbered, -⟩, rolled⟩
  rw [rollGiant_congr alike] at rolled
  exact ⟨Slot.stamp_giant numbered, g, rfl, rolled⟩

/-- Rolling and placing gas giants enters its phase and makes decisions. -/
theorem ends_seedGiants (main : World) (mainName : String) {run : Run σ StarSystem}
    (sound : run.scene.Sound) (may : Phase.gasGiants.mayFollow run.scene.phase = true) :
    (seedGiants mainName : Gen σ StarSystem Int).Ends run fun _ after =>
      Decisions σ main { run.scene with phase := some .gasGiants } after.scene := by
  rw [seedGiants, Gen.ends_bind, ends_enter may, Gen.ends_bind]
  refine Gen.ends_roll gives_rollGiants fun wanted dice _ => ?_
  split
  · exact .refl
  · obtain ⟨zones, zoned⟩ := sound.classified.exists_zones
    have entered := (alike_enter run.scene .gasGiants).sound sound
    refine Gen.Ends.mono (ends_placeGiants mainName wanted entered.fitted entered.few zoned) ?_
    rintro _ after ⟨-, -, orbits, placings, -⟩
    refine placings.decisions (.refl _) ?_
    rintro i _ ⟨g, rfl, rolled⟩
    exact .giant rolled

end Giants

/-! ## Belts -/

section Belts

/-- The orbits to pick from for belts are the undecided ones. -/
lemma perm_beltCandidates {s : StarSystem} (fitted : s.slots.length = s.maxOrbits.toNat) :
    (beltCandidates s).all.Perm s.undecidedOrbits := by
  have shadowed : (shadowedOrbits s).Nodup :=
    (List.Nodup.map (fun _ _ h => by simpa using h) StarSystem.nodup_giantOrbits).filter _
  have inShadow : (shadowedOrbits s).Perm
      (s.undecidedOrbits.filter fun orbit => (shadowedOrbits s).contains orbit) := by
    refine (List.perm_ext_iff_of_nodup shadowed (StarSystem.nodup_undecidedOrbits.filter _)).mpr ?_
    intro orbit
    rw [List.mem_filter, List.contains_iff_mem]
    refine (and_iff_right_of_imp fun mem => ?_).symm
    exact StarSystem.mem_undecidedOrbits.mpr
      ((StarSystem.isUndecided_iff fitted).mp (List.mem_filter.mp mem).2)
  exact (inShadow.append_right _).trans (List.filter_append_perm _ _)

/-- Placing belts fills picked slots with rolled ones. -/
theorem ends_placeBelts (main : World) (wanted : Int) {run : Run σ StarSystem}
    (fitted : run.scene.slots.length = run.scene.maxOrbits.toNat)
    (classified : run.scene.star.Classified) :
    (placeBelts main wanted : Gen σ StarSystem Int).Ends run fun placed after =>
      placed = max 0 (min wanted (beltCandidates run.scene).count) ∧
      after.journal = run.journal ++
        (if placed < wanted then
          [.diagnosed (shortfall run.scene.name "planetoid belt" "planetoid belts" wanted placed)]
          else []) ∧
      ∃ orbits, Placings (fun i body => ∃ w, body = .world w ∧
          (rollBelt run.scene i main : Roll σ World).CanGive w) orbits run.scene after.scene ∧
        (orbits.length : Int) = placed ∧ (beltCandidates run.scene).Picks orbits := by
  rw [placeBelts, Gen.ends_bind, Gen.ends_scene]
  refine ends_placeUpTo (fun {t i} alike free => ?_) _ _ wanted fitted
    (.of_perm fitted (perm_beltCandidates fitted))
  rw [rollBelt_congr alike rfl]
  refine (gives_rollBelt main classified i).canGive.bind ?_
  rintro w ⟨⟨population, -, founded⟩, rolled⟩
  have numbered : w.orbit = i := congrArg World.orbit founded.frame
  exact Roll.gives_pure ⟨Slot.stamp_world numbered, w, rfl, rolled⟩

/-- Rolling and placing belts enters its phase and makes decisions. -/
theorem ends_seedBelts (main : World) (giants : Int) {run : Run σ StarSystem}
    (regular : run.scene.Regular) (may : Phase.planetoids.mayFollow run.scene.phase = true) :
    (seedBelts main giants : Gen σ StarSystem Int).Ends run fun _ after =>
      Decisions σ main { run.scene with phase := some .planetoids } after.scene := by
  rw [seedBelts, Gen.ends_bind, ends_enter may, Gen.ends_bind]
  refine Gen.ends_roll (gives_rollBelts giants) fun wanted dice _ => ?_
  split
  · exact .refl
  · have entered := (alike_enter run.scene .planetoids).regular regular
    refine Gen.Ends.mono (ends_placeBelts main wanted entered.fitted entered.classified) ?_
    rintro _ after ⟨-, -, orbits, placings, -⟩
    refine placings.decisions (.refl _) ?_
    rintro i _ ⟨w, rfl, rolled⟩
    exact .belt rolled

end Belts

/-! ## Other worlds -/

section Filling

/-- Filling orbits beyond a limit gives those a rolled world that are undecided, and leaves none of
them undecided.

**Proof sketch.** By induction on the orbits, which follows the recursion. An undecided orbit gets a
world, and the star with this world in it is alike to the one of before, so that the rest goes on
from there; what is decided stays so, and therefore this orbit is not undecided in the end either. A
decided orbit is passed over, and would still be undecided at the end only if it had been before. -/
lemma ends_fillOrbits (main : World) (hot : Int) (orbits : List Int) {s : StarSystem}
    {run : Run σ StarSystem} (alike : s.Alike run.scene)
    (fitted : run.scene.slots.length = run.scene.maxOrbits.toNat)
    (few : run.scene.slots.length ≤ 20) (classified : s.star.Classified)
    (warm : ∀ orbit ∈ orbits, hot < orbit) :
    (fillOrbits main orbits : Gen σ StarSystem Nat).Ends run fun count after =>
      (∃ filled, Placings (fun i body => hot < i ∧ ∃ w, body = .world w ∧
          (rollWorld s i main : Roll σ World).CanGive w) filled run.scene after.scene ∧
        filled.length = count) ∧
      ∀ i : Nat, (i : Int) ∈ orbits → after.scene.slots[i]? ≠ some .undecided := by
  induction orbits generalizing run with
  | nil => exact ⟨⟨[], .nil _, rfl⟩, fun i hmem => absurd hmem List.not_mem_nil⟩
  | cons orbit rest ih =>
    have warmRest := fun other mem => warm other (List.mem_cons_of_mem orbit mem)
    simp only [fillOrbits, Gen.ends_bind, Gen.ends_scene]
    split
    · rename_i undecided
      obtain ⟨i, rfl, free⟩ := StarSystem.held_of_isUndecided undecided
      have short := (List.getElem?_eq_some_iff.mp free).1
      rw [Gen.ends_bind, rollWorld_congr alike rfl]
      refine Gen.ends_roll (gives_rollWorld main classified (by omega) (by omega)).canGive ?_
      rintro w dice ⟨⟨_, _, _, _, _, -, -, founded, -⟩, rolled⟩
      have numbered : w.orbit = i := congrArg World.orbit founded.frame
      rw [Gen.ends_bind,
        Gen.ends_attempt (StarSystem.place_eq fitted _ free (Slot.stamp_world numbered)),
        Gen.ends_bind]
      refine Gen.Ends.mono (ih (alike.trans (StarSystem.alike_set _ _ _)) ?_ ?_ warmRest) ?_
      · simpa using fitted
      · simpa using few
      · rintro count after ⟨⟨filled, placings, length⟩, done⟩
        have warm := warm i List.mem_cons_self
        refine ⟨⟨i :: filled, .cons free ⟨warm, w, rfl, rolled⟩ placings,
          congrArg (· + 1) length⟩, fun j mem => ?_⟩
        rcases List.mem_cons.mp mem with same | later
        · obtain rfl : j = i := by omega
          have held : (run.scene.slots.set j (.world w))[j]? = some (.world w) :=
            List.getElem?_set_self short
          exact fun free => absurd (held.symm.trans (placings.undecided free)) (by simp)
        · exact done j later
    · rename_i decided
      refine (ih alike fitted few warmRest).mono ?_
      rintro count after ⟨⟨filled, placings, length⟩, done⟩
      refine ⟨⟨filled, placings, length⟩, fun j mem => ?_⟩
      rcases List.mem_cons.mp mem with same | later
      · refine fun free => decided ((StarSystem.isUndecided_iff fitted).mpr ⟨j, same.symm, ?_⟩)
        exact placings.undecided free
      · exact done j later

/-- Filling a star enters its phase, leaves the orbits up to the hot limit empty and gives the
others rolled worlds.  Nothing is left undecided.

**Proof sketch.** The orbits up to the hot limit are marked to stay empty, and those beyond it are
filled; since every orbit lies on one side of the limit, none is left out. -/
theorem ends_fill (main : World) {run : Run σ StarSystem} {zones : Zones}
    (fitted : run.scene.slots.length = run.scene.maxOrbits.toNat)
    (few : run.scene.slots.length ≤ 20) (classified : run.scene.star.Classified)
    (zoned : run.scene.star.zones = .ok zones)
    (may : Phase.filler.mayFollow run.scene.phase = true) :
    (fill main : Gen σ StarSystem Nat).Ends run fun count after =>
      (∃ filled, Placings (fun i body => zones.hot < i ∧ ∃ w, body = .world w ∧
          (rollWorld run.scene i main : Roll σ World).CanGive w) filled
          (StarSystem.markEmpties { run.scene with phase := some .filler }
            (Orbit.span 0 (zones.hot + 1))) after.scene ∧ filled.length = count) ∧
      ∀ i : Nat, after.scene.slots[i]? ≠ some .undecided := by
  rw [fill, Gen.ends_bind, ends_enter may, Gen.ends_bind, Gen.ends_scene, Gen.ends_bind,
    Gen.ends_ofExcept zoned, Gen.ends_bind, Gen.ends_change, Gen.ends_bind, Gen.ends_scene]
  have marked := StarSystem.fills_markEmpties (s := { run.scene with phase := some .filler }) fitted
    (Orbit.span 0 (zones.hot + 1))
  have few' := marked.length.trans_le few
  refine (ends_fillOrbits main zones.hot _ ((alike_enter _ _).trans marked.alike)
    (marked.fitted fitted) few' classified fun orbit mem => ?_).mono ?_
  · have := (Orbit.mem_span.mp mem).1
    omega
  rintro count after ⟨⟨filled, placings, length⟩, beyond⟩
  refine ⟨⟨filled, placings, length⟩, fun i undecided => ?_⟩
  have free := placings.undecided undecided
  have lt : i < run.scene.slots.length :=
    (List.getElem?_eq_some_iff.mp free).1.trans_eq marked.length
  rcases Int.lt_or_le zones.hot i with beyondHot | upToHot
  · have within : (i : Int) < run.scene.maxOrbits := by omega
    refine beyond i (Orbit.mem_span.mpr ⟨by omega, ?_⟩) undecided
    exact within.trans_eq marked.alike.maxOrbits.symm
  · obtain ⟨before, apart⟩ := marked.undecided_iff.mp free
    exact apart ⟨Orbit.mem_span.mpr ⟨by omega, by omega⟩, before⟩

/-- Filling a sound star makes decisions and leaves nothing undecided. -/
theorem ends_fill_decisions (main : World) {run : Run σ StarSystem} (sound : run.scene.Sound)
    (may : Phase.filler.mayFollow run.scene.phase = true) :
    (fill main : Gen σ StarSystem Nat).Ends run fun _ after =>
      Decisions σ main { run.scene with phase := some .filler } after.scene ∧
        ∀ i : Nat, after.scene.slots[i]? ≠ some .undecided := by
  obtain ⟨zones, zoned⟩ := sound.classified.exists_zones
  refine (ends_fill main sound.fitted sound.few sound.classified zoned may).mono ?_
  rintro count after ⟨⟨filled, placings, -⟩, done⟩
  have marked := StarSystem.decisions_markEmpties (σ := σ) main
    { run.scene with phase := some .filler } (Orbit.span 0 (zones.hot + 1))
  refine ⟨marked.trans (placings.decisions ((alike_enter _ _).trans marked.alike) ?_), done⟩
  rintro i _ ⟨warm, w, rfl, rolled⟩
  refine .world (fun {zones'} zoned' => ?_) rolled
  obtain rfl : zones = zones' := Except.ok.inj (zoned.symm.trans zoned')
  exact warm

end Filling

end Starchart.Population
