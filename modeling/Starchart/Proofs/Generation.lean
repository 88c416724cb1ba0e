import Starchart.Generator
import Starchart.Proofs.Traversal

/-!
# Whole runs of the generator

The generator builds the stars, seats the main world and populates every star but contact
companions.  None of it fails, and on the chart that results everything stands where it should.

## Main definitions

* `Starchart.Atlas.Course` — the stages of populating a fresh chart.
* `Starchart.Atlas.Populated` — what populating does to a fresh chart.
* `Starchart.Atlas.Unvisited` — companions that populating did not come to yet.
* `Starchart.Generator.Generated` — charts as the generator leaves them.

## Main results

* `Starchart.Population.ends_populate` — populating a fresh chart does not fail.
* `Starchart.Generator.ends_generate` — neither does the whole run.
* `Starchart.Generator.generated_of_course` — what a run leaves behind.
-/

set_option autoImplicit false

namespace Starchart

variable {σ : Type} [RandomSource σ]

/-! ## Populating a chart -/

/-- What populating does to a fresh chart: the main world stands in or around slot `k` of star
`last` alone, and every star but contact companions went through all phases. -/
structure Atlas.Populated (σ : Type) [RandomSource σ] (a : Atlas) (last : StarId) (k : Nat)
    (b : Atlas) : Prop where
  sound : b.Sound σ (some (last, k))
  length : b.stars.length = a.stars.length
  charter : b.main.charter = a.main.charter
  isMain : b.main.isMain = true
  bareAsMoon : b.BareAsMoon
  star : ∀ {id : StarId} {s : StarSystem}, a.star? id = some s → ∃ t, b.star? id = some t ∧
    s.Alike t ∧ t.hasMain = decide (id = 0 ∨ id = last) ∧
      (t.orbit = Orbit.contact ∧ t.phase = none ∧
          (∀ {i : Nat} {content : Slot}, t.slots[i]? = some content → content = .undecided) ∨
        t.orbit ≠ Orbit.contact ∧ t.Finished)
  seat : ∃ t, b.star? last = some t ∧ k < t.slots.length ∧
    (last ≠ 0 → t.companions = [] ∧ t.slots[k]? = some .main)

/-- The stages of populating chart `a`: the primary star is seeded, the main world is placed and
arrives at slot `k` of star `last`, the primary star is completed, and its companions are populated.
The warnings are those about stars without a usable orbit. -/
inductive Atlas.Course (σ : Type) [RandomSource σ] (limit : Int) (a : Atlas) (last : StarId) (k : Nat)
    (warnings : List Diagnostic) (e : Atlas) : Prop
  | intro {b c d : Atlas} {s : StarSystem} {path : List StarId}
      (seeded : Advances σ limit 0 .planetoids a b) (found : b.star? 0 = some s)
      (primary : s.orbit = Orbit.primary) (near : b.NearBare)
      (placed : b.Placement σ 0 s path last k warnings c) (arrives : b.Arrives σ last k c)
      (completed : Advances σ limit 0 .companions c d)
      (finished : ∃ t, d.star? 0 = some t ∧ t.Finished)
      (below : Populates σ limit 1 a.stars.length d e) :
      Course σ limit a last k warnings e

namespace Atlas

section Populating

variable {limit : Int} {a b c e : Atlas} {last : StarId} {k : Nat} {warnings : List Diagnostic}

/-- A star of a fresh chart after it was seeded and the main world arrived: companions are in no
phase yet, and apart from the one with the main world they have their slots of before. -/
lemma Arrives.exists_star (arrives : b.Arrives σ last k c) (start : a.Sound σ none)
    (seeded : Advances σ limit 0 .planetoids a b) {id : StarId} {s : StarSystem}
    (fresh : a.Fresh id s) (found : a.star? id = some s) : ∃ t, c.star? id = some t ∧ s.Alike t ∧
      t.hasMain = decide (id = 0 ∨ id = last) ∧
        (id ≠ 0 → t.phase = none ∧ (id ≠ last → t.slots = s.slots)) := by
  obtain ⟨u, foundU, alike, hasMain⟩ := seeded.reaches.star start found
  obtain ⟨t, foundT, alike', hasMain', phase, slots⟩ := arrives.star foundU
  refine ⟨t, foundT, alike.trans alike', ?_, fun other => ?_⟩
  · rw [hasMain', hasMain, fresh.hasMain, Bool.false_or]
  · -- a companion is not seeded together with the primary star
    obtain rfl : s = u := by simpa [seeded.others id other, found] using foundU
    exact ⟨by rw [phase, if_neg other, fresh.phase], slots⟩

/-- When the primary star of a fresh chart was seeded, its companions are as they were. -/
lemma Advances.exists_primary (h : Advances σ limit 0 .planetoids a b) (start : a.Sound σ none)
    (fresh : ∀ {id : StarId} {s : StarSystem}, a.star? id = some s → a.Fresh id s)
    {s : StarSystem} (found : a.star? 0 = some s) : ∃ t, b.star? 0 = some t ∧ s.Alike t ∧
      t.orbit = Orbit.primary ∧ t.phase = some .planetoids ∧ b.NearBare := by
  obtain ⟨t, after, alike, reached⟩ := h.exists_star start found
  refine ⟨t, after, alike, alike.orbit.trans ((fresh found).primary rfl), reached, ?_⟩
  intro id c other known close
  rw [h.others id other] at known
  obtain ⟨alone, undecided⟩ := (fresh known).near other close
  exact ⟨alone, fun _ _ held => undecided held⟩

/-- A fresh chart is populated in the course of its stages.

**Proof sketch.** The steps after the arrival keep the chart sound, the main world in its slot and
all stars alike.  A contact companion is left alone; it is not where the main world stands, since
that lies outside of its parent. -/
lemma Course.populated (h : a.Course σ limit last k warnings e) (start : a.Sound σ none)
    (fresh : ∀ {id : StarId} {s : StarSystem}, a.star? id = some s → a.Fresh id s) :
    a.Populated σ last k e := by
  obtain @⟨b, c, d, -, -, seeded, -, -, -, -, arrives, completed, finished, below⟩ := h
  have steps : Reaches σ limit c e := completed.reaches.trans below.reaches
  have bare := steps.bare_eq arrives.sound
  obtain ⟨seat, foundSeat, room, away⟩ := arrives.seat
  exact {
    sound := steps.sound arrives.sound
    length := by
      rw [steps.length_eq arrives.sound, arrives.length, seeded.reaches.length_eq start]
    charter := by
      rw [World.charter_eq bare, arrives.charter, seeded.reaches.main_eq start]
    isMain := (congrArg World.isMain bare).trans arrives.isMain
    bareAsMoon := steps.bareAsMoon arrives.sound (.inl arrives.bare)
    star := fun {id s} known => by
      obtain ⟨t, foundT, alike, hasMain, companion⟩ :=
        arrives.exists_star start seeded (fresh known) known
      obtain ⟨u, foundU, alike', hasMain'⟩ := steps.star arrives.sound foundT
      refine ⟨u, foundU, alike.trans alike', hasMain'.trans hasMain, ?_⟩
      by_cases zero : id = 0
      · subst zero
        obtain ⟨v, foundV, finished⟩ := finished
        have outer := below.outer 0 (.inl (Nat.lt_succ_self 0))
        obtain rfl : v = u := by simpa [outer, foundV] using foundU
        refine .inr ⟨?_, finished⟩
        rw [(alike.trans alike').orbit, (fresh known).primary rfl]
        decide
      · rw [← completed.others id zero] at foundT
        obtain ⟨v, foundV, outcome⟩ :=
          below.inner (Nat.one_le_iff_ne_zero.mpr zero) (lt_length known) foundT
        obtain rfl := Option.eq_some_unique foundV foundU
        rcases outcome with ⟨contact, rfl⟩ | ⟨outside, finished⟩
        · obtain ⟨phase, slots⟩ := companion zero
          have orbit : s.orbit = Orbit.contact := alike.orbit.symm.trans contact
          -- the main world stands outside of the star that its star orbits
          have elsewhere : id ≠ last := by
            rintro rfl
            rw [completed.others id zero] at foundT
            obtain rfl := Option.eq_some_unique foundT foundSeat
            have outside := (away zero).1
            omega
          refine .inl ⟨contact, phase, fun held => ?_⟩
          rw [slots elsewhere] at held
          have close : s.orbit ≠ Orbit.far := by
            rw [orbit]
            decide
          exact ((fresh known).near zero close).2 held
        · exact .inr ⟨alike'.orbit.symm ▸ outside, finished⟩
    seat := by
      obtain ⟨t, foundT, alike, -⟩ := steps.star arrives.sound foundSeat
      refine ⟨t, foundT, alike.length.symm ▸ room, fun other => ?_⟩
      obtain ⟨-, alone, held⟩ := away other
      exact ⟨alike.companions.trans alone, steps.main_slot arrives.sound foundSeat foundT held⟩ }

/-- The companions on chart `b` are alike those on chart `a` and in no phase yet. -/
def Unvisited (a b : Atlas) : Prop :=
  ∀ ⦃id : Nat⦄ ⦃s : StarSystem⦄, 1 ≤ id → a.star? id = some s →
    ∃ t, b.star? id = some t ∧ s.Alike t ∧ t.phase = none

namespace Unvisited

/-- Companions of a fresh chart that were not visited await being populated. -/
lemma awaits (h : a.Unvisited b)
    (fresh : ∀ {id : StarId} {s : StarSystem}, a.star? id = some s → a.Fresh id s) :
    b.Awaits 1 a.stars.length := by
  intro id t above below found
  obtain ⟨s, known⟩ := exists_star_of_lt below
  obtain ⟨u, foundU, alike, phase⟩ := h above known
  obtain rfl := Option.eq_some_unique foundU found
  have other : id ≠ 0 := Nat.one_le_iff_ne_zero.mp above
  refine ⟨phase, alike.orbit.symm ▸ (fresh known).companion other, fun contact => ?_⟩
  rw [alike.companions]
  refine ((fresh known).near other ?_).1
  rw [alike.orbit.symm.trans contact]
  decide

/-- Companions that were not visited span what they spanned before. -/
lemma spans (h : a.Unvisited b) (spans : a.Spans (some 0) 0 a.stars.length)
    {s t : StarSystem} (found : a.star? 0 = some s) (alike : s.Alike t) :
    ∃ mid, b.Spans t.secondary 1 mid ∧ b.Spans t.tertiary mid a.stars.length := by
  have kept : ∀ {id : Nat} {u : StarSystem}, 1 ≤ id → a.star? id = some u →
      ∃ v, b.star? id = some v ∧ v.secondary = u.secondary ∧ v.tertiary = u.tertiary := by
    intro id u above known
    obtain ⟨v, foundV, alike, -⟩ := h above known
    exact ⟨v, foundV, alike.secondary, alike.tertiary⟩
  cases spans with
  | @node _ _ mid _ found' second third =>
    obtain rfl := Option.eq_some_unique found found'
    rw [alike.secondary, alike.tertiary]
    refine ⟨mid, second.congr fun above _ known => kept above known, ?_⟩
    exact third.congr fun above _ known => kept (Nat.le_trans second.le above) known

end Unvisited

end Populating

end Atlas

namespace Population

open Atlas (Advances Populates)

/-- What is done once the main world is placed: its star is completed, and the companions of that
are populated. -/
def finish (limit : Int) (fuel : Nat) (id : StarId) : Gen σ Atlas Unit := do
  complete limit id
  (← Gen.star id).companions.forM (populateCompanion limit fuel)

/-- Populating the star of the main world, in stages. -/
lemma populate_primary_eq (limit : Int) (id : StarId) :
    (populate limit id true : Gen σ Atlas Unit) = (do
      let a ← Gen.scene
      seed id
      placeMain id limit
      finish limit a.stars.length id) := by
  simp only [populate, populateFrom, populateStar_primary_eq, finish, bind_assoc]
  rfl

/-- What is done once the main world is placed moves a chart along a relation that admits whatever
happens to any star, and records nothing that concerns its place. -/
lemma within_finish {R : Atlas → Atlas → Prop} [IsPreorder Atlas R]
    (admits : ∀ id, Atlas.Admits id R) (limit : Int) (fuel : Nat) (id : StarId) :
    (finish limit fuel id : Gen σ Atlas Unit).Within [.shortfall, .orbit] R Fault.Any :=
  ((within_complete (admits id) limit).allow (by decide)).bind fun _ =>
    (Gen.within_star trivial).bind fun _ => Gen.within_forM <| within_populateCompanion fun _ =>
      within_populateFrom admits (List.Subset.refl _) fuel nofun

/-- Once the main world has arrived on a fresh chart that was seeded, the rest does not fail.

**Proof sketch.** Up to the arrival only the primary star changes, so the companions still await
being populated, except that one of them may have the main world already. -/
lemma ends_finish {a b : Atlas} {run : Run σ Atlas} {s : StarSystem} {last : StarId} {k : Nat}
    (limit : Int) (start : a.Sound σ none)
    (fresh : ∀ {id : StarId} {s : StarSystem}, a.star? id = some s → a.Fresh id s)
    (spans : a.Spans (some 0) 0 a.stars.length) (found : a.star? 0 = some s)
    (seeded : Advances σ limit 0 .planetoids a b) (arrives : b.Arrives σ last k run.scene) :
    (finish limit a.stars.length 0 : Gen σ Atlas Unit).Ends run fun _ after => ∃ d,
      Advances σ limit 0 .companions run.scene d ∧ (∃ t, d.star? 0 = some t ∧ t.Finished) ∧
        Populates σ limit 1 a.stars.length d after.scene := by
  obtain ⟨s₁, found₁, alike₁, -⟩ := seeded.exists_star start found
  obtain ⟨s₂, found₂, alike₂, -, phase₂, -⟩ := arrives.star found₁
  -- the primary star is completed
  have may : Phase.filler.mayFollow s₂.phase = true := by rw [phase₂]; rfl
  rw [finish, Gen.ends_bind]
  refine (ends_complete limit arrives.sound found₂ may).mono ?_
  rintro _ third ⟨completed, s₃, found₃, finished⟩
  obtain ⟨s₃', found₃', alike₃, -⟩ := completed.reaches.star arrives.sound found₂
  obtain rfl := Option.eq_some_unique found₃ found₃'
  rw [Gen.ends_bind, Gen.ends_star found₃]
  -- its companions still await being populated
  have unvisited : a.Unvisited third.scene := by
    intro id u above known
    have other : id ≠ 0 := Nat.one_le_iff_ne_zero.mp above
    obtain ⟨v, foundV, alike, -, own⟩ := arrives.exists_star start seeded (fresh known) known
    exact ⟨v, (completed.others id other).trans foundV, alike, (own other).1⟩
  obtain ⟨mid, second', third'⟩ :=
    unvisited.spans spans found ((alike₁.trans alike₂).trans alike₃)
  refine (ends_populateCompanions (ends_populateFrom limit _) second' third' (Nat.sub_le _ _)
    (completed.reaches.sound arrives.sound) (unvisited.awaits fresh)).mono ?_
  exact fun _ after below => ⟨third.scene, completed, ⟨s₃, found₃, finished⟩, below⟩

/-- Populating a fresh chart does not fail, and the warnings about stars without a usable orbit are
those of placing the main world.

**Proof sketch.** The primary star is seeded, the main world arrives, and the primary star is
completed; its companions follow. -/
theorem ends_populate {run : Run σ Atlas} {s : StarSystem} (limit : Int)
    (charted : run.scene.main.profile.InRange (leastSize run.scene.main.isSatellite))
    (bare : run.scene.main.satellites = [])
    (fresh : ∀ {id : StarId} {s : StarSystem}, run.scene.star? id = some s →
      run.scene.Fresh id s)
    (spans : run.scene.Spans (some 0) 0 run.scene.stars.length)
    (found : run.scene.star? 0 = some s) (room : 0 < s.slots.length) :
    (populate limit 0 true : Gen σ Atlas Unit).Ends run fun _ after =>
      ∃ last k warnings, run.scene.Course σ limit last k warnings after.scene ∧
        after.journal.zoneWarnings = run.journal.zoneWarnings ++ warnings := by
  have sound₀ := Atlas.sound_of_fresh (σ := σ) charted fresh
  rw [populate_primary_eq, Gen.ends_bind, Gen.ends_scene, Gen.ends_bind]
  -- the primary star is seeded
  refine Gen.Ends.mono (Gen.Ends.within (ends_seed limit sound₀ found (fresh found).phase)
    (within_seed (Atlas.admits_keepsMain 0))) ?_
  rintro _ first ⟨seeded, quiet₁, -⟩
  have sound₁ := seeded.reaches.sound sound₀
  have main₁ := seeded.reaches.main_eq sound₀
  obtain ⟨s₁, found₁, alike₁, primary, reached₁, near⟩ := seeded.exists_primary sound₀ fresh found
  -- the main world arrives
  rw [Gen.ends_bind]
  refine Gen.Ends.mono (ends_arrival limit sound₁ (main₁ ▸ bare) found₁ primary reached₁
    (alike₁.length ▸ room) near) ?_
  rintro _ second ⟨path, last, k, warnings, placed, arrives, recorded⟩
  -- the rest is done
  refine Gen.Ends.mono (Gen.Ends.within (ends_finish limit sound₀ fresh spans found seeded arrives)
    (within_finish Atlas.admits_keepsMain limit _ 0)) ?_
  rintro _ after ⟨⟨d, completed, finished, below⟩, quiet₂, -⟩
  refine ⟨last, k, warnings,
    .intro seeded found₁ primary near placed arrives completed finished below, ?_⟩
  rw [quiet₂.zoneWarnings_eq (by decide), recorded, quiet₁.zoneWarnings_eq (by decide)]

end Population

/-! ## The generator -/

namespace Generator

/-- Charts as the generator leaves them for a main world: all stars hang together, and the main
world stands in or around slot `k` of star `last` alone and is assigned to that star and the primary
one. Contact companions have nothing decided about their orbits, other stars have everything
decided. -/
structure Generated (σ : Type) [RandomSource σ] (main : World) (last : StarId) (k : Nat)
    (a : Atlas) : Prop where
  spans : a.Spans (some 0) 0 a.stars.length
  sound : a.Sound σ (some (last, k))
  charter : a.main.charter = (prepare main).charter
  isMain : a.main.isMain = true
  bareAsMoon : a.BareAsMoon
  star : ∀ {id : StarId} {s : StarSystem}, a.star? id = some s →
    s.hasMain = decide (id = 0 ∨ id = last) ∧
      (s.orbit = Orbit.contact ∧ s.phase = none ∧
          (∀ {i : Nat} {content : Slot}, s.slots[i]? = some content → content = .undecided) ∨
        s.orbit ≠ Orbit.contact ∧ s.Finished)
  seat : ∃ s, a.star? last = some s ∧ k < s.slots.length ∧
    (last ≠ 0 → s.companions = [] ∧ s.slots[k]? = some .main)

/-- The marked and classified main world has the digits of the main world that was given. -/
lemma inRange_of_built {main : World} {a : Atlas}
    (charted : main.profile.InRange (leastSize main.isSatellite))
    (built : Constellation.Built (prepare main) a) :
    a.main.profile.InRange (leastSize a.main.isSatellite) := by
  rw [built.main_eq]
  exact charted

/-- A built chart is sound and without the main world. -/
lemma sound_of_built {main : World} {a : Atlas}
    (charted : main.profile.InRange (leastSize main.isSatellite))
    (built : Constellation.Built (prepare main) a) : a.Sound σ none :=
  Atlas.sound_of_fresh (inRange_of_built charted built) fun known => built.fresh known

/-- Populating a built chart makes a generated one of it.

**Proof sketch.** A built chart is fresh, and therefore sound. The course of its population keeps it
so, finds every star again with the same companions, and has brought the main world to its seat;
each clause is read off this course. -/
theorem generated_of_course {main : World} {limit : Int} {a e : Atlas} {last : StarId} {k : Nat}
    {warnings : List Diagnostic} (charted : main.profile.InRange (leastSize main.isSatellite))
    (built : Constellation.Built (prepare main) a) (course : a.Course σ limit last k warnings e) :
    Generated σ main last k e := by
  have fresh := fun {id : StarId} {s : StarSystem} (known : a.star? id = some s) =>
    built.fresh known
  have populated := course.populated (Atlas.sound_of_fresh (inRange_of_built charted built) fresh)
    fresh
  exact {
    spans := by
      rw [populated.length]
      refine built.spans.congr fun _ _ known => ?_
      obtain ⟨t, found, alike, -⟩ := populated.star known
      exact ⟨t, found, alike.secondary, alike.tertiary⟩
    sound := populated.sound
    charter := by rw [populated.charter, built.main_eq]
    isMain := populated.isMain
    bareAsMoon := populated.bareAsMoon
    star := fun found => by
      obtain ⟨s, known⟩ := Atlas.exists_star_of_lt (populated.length ▸ Atlas.lt_length found)
      obtain ⟨t, foundT, -, outcome⟩ := populated.star known
      obtain rfl := Option.eq_some_unique foundT found
      exact outcome
    seat := populated.seat }

/-- A generated chart has a tree, whose stars are on the chart. -/
lemma Generated.exists_tree {main : World} {a : Atlas} {last : StarId} {k : Nat}
    (h : Generated σ main last k a) :
    ∃ t, a.tree 0 = .ok t ∧ ∀ s ∈ t.walk, ∃ id, a.star? id = some s := by
  obtain ⟨t, tree, walk⟩ := Atlas.exists_tree h.spans
  refine ⟨t, tree, fun s hs => ?_⟩
  rw [walk] at hs
  exact List.getElem?_of_mem hs

/-- The tree of a generated chart starts with the primary star, followed by its companions. -/
lemma Generated.exists_walk {main : World} {a : Atlas} {last : StarId} {k : Nat}
    (h : Generated σ main last k a) : ∃ t root companions, a.tree 0 = .ok t ∧
      t.walk = root :: companions ∧ a.star? 0 = some root ∧
        ∀ s ∈ companions, ∃ id, id ≠ 0 ∧ a.star? id = some s := by
  obtain ⟨t, tree, walk⟩ := Atlas.exists_tree h.spans
  obtain ⟨root, companions, stars⟩ : ∃ root companions, a.stars = root :: companions := by
    obtain ⟨s, found, -⟩ := h.seat
    exact List.exists_cons_of_length_pos (Nat.zero_lt_of_lt (Atlas.lt_length found))
  refine ⟨t, root, companions, tree, walk.trans stars, ?_, fun s hs => ?_⟩
  · rw [Atlas.star?, stars]
    rfl
  · obtain ⟨i, held⟩ := List.getElem?_of_mem hs
    refine ⟨i + 1, Nat.succ_ne_zero i, ?_⟩
    rw [Atlas.star?, stars]
    exact held

/-- Generating a system for a main world whose digits are in range does not fail.  It builds the
stars and populates them, and the warnings about stars without a usable orbit are those of placing
the main world.

**Proof sketch.** The main world is marked, the stars are built around it, and its profile text is
written, which can be done as its digits are in range. Building records no diagnostic and leaves a
fresh chart whose primary star has room, so that populating it does not fail and adds the warnings
of placing the main world. -/
theorem ends_generate {main : World} (charted : main.profile.InRange (leastSize main.isSatellite))
    (bare : main.satellites = []) (limit seed : Int) (dice : Dice σ) (journal : Journal) :
    (generate limit seed : Gen σ Atlas StarId).Ends ⟨dice, journal, ⟨[], main⟩⟩
      fun primary after => primary = 0 ∧ ∃ a last k warnings,
        Constellation.Built (prepare main) a ∧ a.Course σ limit last k warnings after.scene ∧
        after.journal.zoneWarnings = journal.zoneWarnings ++ warnings := by
  have silent (bonus : Int) : (Constellation.build bonus true none : Gen σ Atlas StarId).Within []
      Atlas.KeepsMain Fault.Any := Constellation.within_build _ _ _
  rw [generate, Gen.ends_bind, Gen.ends_changeMain, Gen.ends_bind, Gen.ends_main, Gen.ends_bind]
  apply Gen.Ends.mono (Gen.Ends.within (Constellation.ends_build _ true none rfl) (silent _))
  rintro _ ⟨dice, mid, scene⟩ ⟨⟨rfl, built⟩, quiet, -⟩
  obtain ⟨text, htext⟩ := World.exists_profileText (w := prepare main) charted
  obtain ⟨s, found, room⟩ := built.exists_root
  rw [Gen.ends_bind, Gen.ends_ofExcept htext, Gen.ends_bind, Gen.ends_star found, Gen.ends_bind,
    Gen.ends_record, Gen.ends_bind]
  have bare' : scene.main.satellites = [] := by
    rw [show scene.main = prepare main from built.main_eq]
    exact bare
  refine Gen.Ends.mono (Population.ends_populate limit (inRange_of_built charted built) bare'
    (fun known => built.fresh known) built.spans found room) ?_
  rintro _ after ⟨last, k, warnings, course, recorded⟩
  refine ⟨rfl, scene, last, k, warnings, built, course, ?_⟩
  rw [recorded, Journal.zoneWarnings_append, quiet.zoneWarnings_eq (by decide)]
  rw [show Journal.zoneWarnings [.generating _ _ _ _] = [] from rfl, List.append_nil]

end Generator

end Starchart
