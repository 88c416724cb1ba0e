import Starchart.Proofs.LesserWorlds
import Starchart.Proofs.MainMoon

/-!
# Surveyed worlds

The astrophysical data of a world is computed once and kept with it.  It stays right only if nothing that
it follows from changes afterwards, and if it was computed around the star where the world ends up.  In
a generated system this is so for all worlds, wherever the main world was moved.  Rings have no such
data, except that a main world of size zero that comes with the flag of a satellite keeps the flag in a
slot, and then counts as a ring.

## Main results

* `Starchart.Atlas.Course.exists_survey` — the main world is surveyed around the star of its seat.
* `Starchart.Generator.walk_surveyed` — which worlds of a generated system have data, and that it is up
  to date.
* `Starchart.Generator.exists_surveyed_ring` — a main world that counts as a ring and has data.
-/

set_option autoImplicit false

namespace Starchart

variable {σ : Type} [RandomSource σ]

/-- Founding a world does not make it a ring. -/
lemma World.Founded.isRing_eq {main raw w : World} {star : Star} (h : Founded σ main star raw w) :
    w.isRing = raw.isRing := by
  have size : w.profile.size = raw.profile.size := (congrArg Profile.size h.profile_eq :)
  have flag : w.isSatellite = raw.isSatellite := (congrArg World.isSatellite h.frame :)
  rw [isRing, isRing, size, flag]

namespace Atlas

variable {limit : Int} {a b e : Atlas} {seat : Option (StarId × Nat)} {id last : StarId}
  {s : StarSystem} {i k : Nat} {content : Slot} {w : World} {warnings : List Diagnostic}

/-! ## Lesser worlds -/

/-- A lesser world of a sound chart is surveyed, or it is a ring and has no data. -/
lemma Sound.survey (sound : a.Sound σ seat) (bare : a.BareAsMoon) (found : a.star? id = some s)
    (held : s.slots[i]? = some content) (h : content.Holds a.main (.own w)) :
    w.isRing = false ∧ w.IsSurveyed s.star ∨ w.isRing = true ∧ w.astro = none := by
  rcases sound.exists_raw bare found held h with ⟨orbit, rfl⟩ | ⟨raw, isRaw, -, sized, founded⟩
  · exact .inr ⟨rfl, rfl⟩
  · have ring : w.isRing = raw.isRing := founded.isRing_eq
    exact .inl ⟨ring.trans sized,
      founded.isSurveyed isRaw sound.charted (sound.stars found).classified⟩

/-! ## The main world -/

/-- Where the main world is among the worlds of a slot, that is its seat. -/
lemma Sound.seat_of_holds (sound : a.Sound σ seat) (bare : a.BareAsMoon)
    (found : a.star? id = some s) (held : s.slots[i]? = some content)
    (h : content.Holds a.main .main) : seat = some (id, i) := by
  have moon : ∀ {host : Host}, content.host? a.main = some host → .main ∈ host.satellites →
      seat = some (id, i) := fun hosted mem =>
    sound.seat_eq found held (Nat.lt_of_lt_of_le (List.countP_pos_iff.mpr ⟨_, mem, rfl⟩)
      (Slot.countP_isMain_le_mains hosted))
  cases h with
  | main => exact sound.seat_eq found held (Slot.mains_main_pos _)
  | giant mem => exact moon rfl mem
  | satellite inner mem =>
    rcases sound.holds_cases bare found held inner with ⟨w, rfl, rfl⟩ | ⟨rfl, rfl⟩ | ⟨-, none⟩
    · exact moon rfl mem
    · exact moon rfl mem
    · rw [none] at mem
      cases mem

/-- Seating the main world ends with surveying it around the star of the seat. -/
lemma Seating.exists_survey {berth : Berth} (h : a.Seating σ last k berth b)
    (sound : b.Sound σ seat) : ∃ s, b.star? last = some s ∧ b.main.IsSurveyed s.star := by
  have seating := h
  cases h with
  | inSlot found held surveyed =>
    obtain ⟨slots, after, -⟩ := seating.exists_slots found
    exact ⟨_, after, _, rfl,
      (Astro.gives_roll (sound.stars after).classified sound.charted.size.2 sound.charted.hydro
        k).of_canGive surveyed⟩
  | asMoon found held free outside surveyed =>
    obtain ⟨slots, after, -⟩ := seating.exists_slots found
    exact ⟨_, after, _, rfl,
      (Astro.gives_roll (sound.stars after).classified sound.charted.size.2 sound.charted.hydro
        k).of_canGive surveyed⟩

/-- Later steps change neither what the data of the main world follows from nor the data itself. -/
lemma Reaches.exists_survey (h : Reaches σ limit a b) (start : a.Sound σ seat)
    (found : a.star? id = some s) (surveyed : a.main.IsSurveyed s.star) :
    ∃ t, b.star? id = some t ∧ b.main.IsSurveyed t.star := by
  obtain ⟨t, after, alike, -⟩ := h.star start found
  refine ⟨t, after, ?_⟩
  change b.main.bare.IsSurveyed t.star
  rw [h.bare_eq start, alike.star]
  exact surveyed

/-- Populating a fresh chart leaves the main world surveyed around the star of its seat. -/
lemma Course.exists_survey (h : a.Course σ limit last k warnings e) :
    ∃ s, e.star? last = some s ∧ e.main.position = k ∧ e.main.IsSurveyed s.star := by
  obtain @⟨_, c, _, _, _, -, -, -, -, placed, arrives, completed, -, below⟩ := h
  have steps : Reaches σ limit c e := completed.reaches.trans below.reaches
  obtain ⟨berth, seating⟩ := placed.exists_seating
  obtain ⟨s, found, surveyed⟩ := seating.exists_survey arrives.sound
  obtain ⟨t, after, surveyed⟩ := steps.exists_survey arrives.sound found surveyed
  exact ⟨t, after, (steps.main_place arrives.sound).2.trans seating.position_eq, surveyed⟩

/-- Populating a fresh chart leaves the flag of the main world as it was, unless that belongs into
the habitable zone. -/
lemma Course.flag_eq_or_needs (h : a.Course σ limit last k warnings e) (start : a.Sound σ none) :
    e.main.isSatellite = a.main.isSatellite ∨ a.main.profile.needsHabitable = true := by
  obtain @⟨b, c, _, _, _, seeded, -, -, -, placed, arrives, completed, -, below⟩ := h
  have steps : Reaches σ limit c e := completed.reaches.trans below.reaches
  have flag := (steps.main_place arrives.sound).1
  have entry := seeded.reaches.main_eq start
  cases placed with
  | anywhere undemanding seating =>
    refine .inl (flag.trans ?_)
    rw [← entry]
    cases seating
    rfl
  | habitable needs zoned target search =>
    rw [← entry]
    exact .inr needs

end Atlas

/-- A main world of size zero that comes with the flag of a satellite. -/
def World.speck : World := { flagged with profile := { flagged.profile with size := 0 } }

/-- The digits of that world are those of its profile text. -/
lemma World.accepted_speck : World.speck.Accepted where
  read := ⟨['X', '0', '0', '0', '0', '0', '0', '-', '0'], true, by decide, fun _ => rfl⟩
  bare := rfl

namespace Generator

variable {main : World}

/-- A main world of size zero keeps its flag: it does not belong into the habitable zone. -/
lemma flag_eq_of_sizeless {limit : Int} {a e : Atlas} {last : StarId} {k : Nat}
    {warnings : List Diagnostic} (charted : main.profile.InRange (leastSize main.isSatellite))
    (built : Constellation.Built (prepare main) a) (course : a.Course σ limit last k warnings e)
    (sizeless : main.profile.size = 0) : e.main.isSatellite = main.isSatellite := by
  have flag := course.flag_eq_or_needs (sound_of_built charted built)
  rw [built.main_eq] at flag
  refine flag.resolve_right fun needs => ?_
  have sized : 0 < main.profile.size := (of_decide_eq_true needs).2.2
  omega

variable [Inexhaustible σ]

/-- **Surveys are up to date.**  In the tree of a generated system every world, be it in a slot or a
satellite, knows the number of the slot as its position.  If it is the main world or no ring, it has
astrophysical data, which follows from its digits and position as they are in the end and from the
star of the slot; and rings other than the main world have none.  The main world counts as a ring
exactly if it has size zero and was flagged as a satellite before.

**Proof sketch.** A lesser world is surveyed when it was settled, and the main world when it was put
on its seat, be that a slot or a gas giant, around the primary star or a companion.  Later steps
change only names and satellites.  A main world of size zero does not belong into the habitable
zone, so that it is put into a slot, where it keeps its flag. -/
theorem walk_surveyed (accepted : main.Accepted) (limit seed : Int) (dice : Dice σ)
    (journal : Journal) : ∃ primary run t,
      generate limit seed ⟨dice, journal, ⟨[], main⟩⟩ = .ok primary run ∧
        run.scene.tree primary = .ok t ∧
        (run.scene.main.isRing = true ↔ main.isSatellite = true ∧ main.profile.size = 0) ∧
        ∀ s ∈ t.walk, ∀ (i : Nat) (content : Slot), s.slots[i]? = some content →
          (∀ w, content.Holds run.scene.main (.own w) → w.position = i ∧
            (w.isRing = false → w.IsSurveyed s.star) ∧ (w.isRing = true → w.astro = none)) ∧
          (content.Holds run.scene.main .main →
            run.scene.main.position = i ∧ run.scene.main.IsSurveyed s.star) := by
  obtain ⟨run, a, last, k, warnings, ran, built, course⟩ :=
    exists_course accepted limit seed dice journal
  have generated := generated_of_course accepted.inRange built course
  have sound := generated.sound
  have bare := generated.bareAsMoon
  obtain ⟨t, tree, stars⟩ := generated.exists_tree
  refine ⟨0, run, t, ran, tree, ?_, fun s hs i content held => ?_⟩
  · have profile : run.scene.main.profile = main.profile :=
      (congrArg World.profile generated.charter :)
    rw [World.isRing, Bool.and_eq_true, beq_iff_eq, profile]
    refine and_congr_left fun sizeless => ?_
    rw [flag_eq_of_sizeless accepted.inRange built course sizeless]
  · obtain ⟨id, found⟩ := stars s hs
    refine ⟨fun w hw => ⟨sound.position_eq bare found held hw, ?_⟩, fun hmain => ?_⟩
    · rcases sound.survey bare found held hw with ⟨sized, surveyed⟩ | ⟨ring, none⟩
      · exact ⟨fun _ => surveyed, fun ring => absurd (sized.symm.trans ring) Bool.false_ne_true⟩
      · exact ⟨fun sized => absurd (sized.symm.trans ring) Bool.false_ne_true, fun _ => none⟩
    · obtain ⟨seated, known, position, surveyed⟩ := course.exists_survey
      have here := sound.seat_of_holds bare found held hmain
      injection here with here
      injection here with star slot
      subst star slot
      obtain rfl := Option.eq_some_unique known found
      exact ⟨position, surveyed⟩

/-- The worlds in the system of a main world of its kind are surveyed. -/
theorem walk_surveyed_regina : World.regina.Accepted ∧ ∃ primary run t,
    generate 10 1 (⟨⟨(⟨1⟩ : Congruential), []⟩, [], ⟨[], .regina⟩⟩ : Run Congruential Atlas) =
      .ok primary run ∧ run.scene.tree primary = .ok t ∧
        (run.scene.main.isRing = true ↔
          World.regina.isSatellite = true ∧ World.regina.profile.size = 0) ∧
        ∀ s ∈ t.walk, ∀ (i : Nat) (content : Slot), s.slots[i]? = some content →
          (∀ w, content.Holds run.scene.main (.own w) → w.position = i ∧
            (w.isRing = false → w.IsSurveyed s.star) ∧ (w.isRing = true → w.astro = none)) ∧
          (content.Holds run.scene.main .main →
            run.scene.main.position = i ∧ run.scene.main.IsSurveyed s.star) :=
  ⟨World.accepted_regina, walk_surveyed World.accepted_regina 10 1 _ _⟩

/-! ### A ring with data -/

/-- A main world in a slot of its system that counts as a ring and has astrophysical data. -/
theorem exists_surveyed_ring : World.speck.Accepted ∧ ∃ primary run t,
    generate 64 0 (⟨⟨(⟨2⟩ : Congruential), []⟩, [], ⟨[], .speck⟩⟩ : Run Congruential Atlas) =
      .ok primary run ∧ run.scene.tree primary = .ok t ∧ t.HasMainInSlot ∧
        run.scene.main.isRing = true ∧ run.scene.main.astro ≠ none := by
  obtain ⟨primary, run, t, ran, tree, passes⟩ := Gen.exists_of_treePasses
    (generate 64 0) ⟨⟨(⟨2⟩ : Congruential), []⟩, [], ⟨[], .speck⟩⟩
    (fun a t => (t.walk.any fun s => s.slots.any Slot.isMain) && a.main.isRing &&
      a.main.astro.isSome)
    (by decide +kernel)
  simp only [Bool.and_eq_true] at passes
  obtain ⟨⟨held, ring⟩, data⟩ := passes
  exact ⟨World.accepted_speck, primary, run, t, ran, tree, Tree.hasMainInSlot_of_any held, ring,
    Option.isSome_iff_ne_none.mp data⟩

end Generator

end Starchart
