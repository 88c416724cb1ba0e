import Starchart.Proofs.Systems

/-!
# The lesser worlds of generated systems

All worlds of a system but its main world are subordinate to that: whatever rolls they come from, they
are founded on raw worlds whose digits are kept within bounds that the main world sets.  The rest of
their digits and their facilities follow rules that can be checked on the finished chart, because
nothing that these rules read changes after a world was founded.

## Main results

* `Starchart.Atlas.Sound.exists_raw` — where the lesser worlds come from.
* `Starchart.Generator.walk_population` — no lesser world is as populous as the main world.
* `Starchart.Generator.walk_administered` — lesser worlds are administered from the main world.
* `Starchart.Generator.walk_equipped` — their facilities suit them.
-/

set_option autoImplicit false

namespace Starchart

namespace World

namespace Founded

variable {σ : Type} [RandomSource σ] {main raw w : World} {star : Star}

/-- Founding a world keeps its population. -/
lemma population_eq (h : Founded σ main star raw w) :
    w.profile.population = raw.profile.population :=
  (congrArg Profile.population h.profile_eq :)

/-- A founded world is administered from the main world. -/
lemma administered (h : Founded σ main star raw w)
    (law : 0 ≤ main.profile.law ∧ main.profile.law ≤ 15) : w.Administered main := by
  cases h with
  | @intro zones d astro zoned allowed surveyed =>
    -- surveying changes nothing that the rules speak of
    have settled : (Settlement.settled raw zones main d).Administered main :=
      Settlement.administered_settled allowed law
    exact { settled with }

/-- The facilities of a founded world suit it. -/
lemma equipped (h : Founded σ main star raw w) {zones : Zones} (zoned : star.zones = .ok zones) :
    w.Equipped main zones := by
  cases h with
  | intro zoned' allowed surveyed =>
    obtain rfl : _ = zones := Except.ok.inj (zoned'.symm.trans zoned)
    exact { Settlement.equipped_settled allowed with }

end Founded

/-- Nobody lives on a ring. -/
lemma not_le_population_ring {count : Int} (some : 0 < count) (orbit position : Int) :
    ¬count ≤ (ring orbit position).profile.population :=
  Int.not_le.mpr some

/-- A ring is administered like any empty world. -/
lemma administered_ring (main : World) (orbit position : Int) :
    (ring orbit position).Administered main where
  empty _ := ⟨rfl, rfl, rfl, List.mem_cons_self⟩
  government peopled := absurd peopled (Int.lt_irrefl 0)
  law peopled := absurd peopled (Int.lt_irrefl 0)
  port peopled := absurd peopled (Int.lt_irrefl 0)
  techLab peopled := absurd peopled (Int.lt_irrefl 0)
  tech peopled := absurd peopled (Int.lt_irrefl 0)

/-- A ring has no facilities, and nothing calls for any. -/
lemma equipped_ring (main : World) (zones : Zones) (orbit position : Int) :
    (ring orbit position).Equipped main zones where
  listed := List.nil_sublist _
  apart := List.nodup_nil
  mining := iff_of_false List.not_mem_nil fun ⟨_, peopled⟩ =>
    not_le_population_ring (by decide) orbit position peopled
  farming := iff_of_false List.not_mem_nil fun ⟨_, _, _, _, _, _, peopled⟩ =>
    not_le_population_ring (by decide) orbit position peopled
  colony := iff_of_false List.not_mem_nil fun ⟨_, peopled⟩ =>
    not_le_population_ring (by decide) orbit position peopled
  lab built := absurd built List.not_mem_nil
  military built := absurd built List.not_mem_nil

end World

namespace Atlas.Sound

variable {σ : Type} [RandomSource σ] {a : Atlas} {seat : Option (StarId × Nat)} {id : StarId}
  {s : StarSystem} {i : Nat} {content : Slot} {w : World}

/-- The lesser worlds of a sound chart are rings or founded on raw worlds that are not, at the
position of the slot.

**Proof sketch.** By cases on whether the world is the one of the slot or a satellite there. The
first was founded when the slot was decided, the second when its host was furnished, unless it is a
ring. -/
lemma exists_raw (sound : a.Sound σ seat) (bare : a.BareAsMoon) (found : a.star? id = some s)
    (held : s.slots[i]? = some content) (h : content.Holds a.main (.own w)) :
    (∃ orbit, w = World.ring orbit i) ∨ ∃ raw : World, raw.Raw a.main ∧ raw.position = i ∧
      raw.isRing = false ∧ World.Founded σ a.main s.star raw w.bare := by
  have ofStar := sound.stars found
  rcases sound.own_cases bare found held h with rfl | fits
  · obtain ⟨raw, isRaw, founded, -, position, planet⟩ := (sound.slots found held).exists_raw ofStar
      (List.getElem?_eq_some_iff.mp held).1
    exact .inr ⟨raw, isRaw, position, by rw [World.isRing, planet, Bool.false_and], founded⟩
  · have none := fits.satellites_eq ofStar.classified
    rcases fits.own_cases ofStar.classified with
      ring | ⟨raw, isRaw, founded, position, -, nonzero⟩
    · exact .inl ring
    · have sized : raw.isRing = false := by
        rw [World.isRing, beq_eq_false_iff_ne.mpr nonzero, Bool.and_false]
      exact .inr ⟨raw, isRaw, position, sized, (World.bare_of_nil none).symm ▸ founded⟩

/-- A lesser world of a sound chart has a population, and less than the main world unless that has
none. -/
lemma population_range (sound : a.Sound σ seat) (bare : a.BareAsMoon) (found : a.star? id = some s)
    (held : s.slots[i]? = some content) (h : content.Holds a.main (.own w)) :
    0 ≤ w.profile.population ∧ w.profile.population ≤ max 0 (a.main.profile.population - 1) := by
  rcases sound.exists_raw bare found held h with ⟨orbit, rfl⟩ | ⟨raw, isRaw, -, -, founded⟩
  · exact ⟨Int.le_refl 0, Int.le_max_left 0 _⟩
  · have same : w.profile.population = raw.profile.population := founded.population_eq
    rw [same]
    exact isRaw.population

/-- A lesser world of a sound chart lies at the position of its slot. -/
lemma position_eq (sound : a.Sound σ seat) (bare : a.BareAsMoon) (found : a.star? id = some s)
    (held : s.slots[i]? = some content) (h : content.Holds a.main (.own w)) : w.position = i := by
  rcases sound.exists_raw bare found held h with ⟨orbit, rfl⟩ | ⟨raw, -, position, -, founded⟩
  · rfl
  · exact (congrArg World.position founded.frame :).trans position

/-- A lesser world of a sound chart is administered from the main world. -/
lemma administered (sound : a.Sound σ seat) (bare : a.BareAsMoon) (found : a.star? id = some s)
    (held : s.slots[i]? = some content) (h : content.Holds a.main (.own w)) :
    w.Administered a.main := by
  rcases sound.exists_raw bare found held h with ⟨orbit, rfl⟩ | ⟨raw, -, -, -, founded⟩
  · exact World.administered_ring a.main orbit i
  · exact { founded.administered sound.charted.law with }

/-- The facilities of a lesser world of a sound chart suit it. -/
lemma equipped (sound : a.Sound σ seat) (bare : a.BareAsMoon) (found : a.star? id = some s)
    (held : s.slots[i]? = some content) (h : content.Holds a.main (.own w)) {zones : Zones}
    (zoned : s.star.zones = .ok zones) : w.Equipped a.main zones := by
  rcases sound.exists_raw bare found held h with ⟨orbit, rfl⟩ | ⟨raw, -, -, -, founded⟩
  · exact World.equipped_ring a.main zones orbit i
  · exact { founded.equipped zoned with }

end Atlas.Sound

namespace Generator

variable {σ : Type} [RandomSource σ] [Inexhaustible σ] {main : World}

/-- **Lesser worlds are less populous.**  In the tree of a generated system every world other than
the main world, be it a planet, a belt, a satellite or a ring, has a population of at least zero
that is below that of the main world, or zero if that has none.  The main world keeps its own.

**Proof sketch.** Each roll for a population ends with clamping it, and rings have none.  Settling
and surveying a world do not change it, and neither does any later step. -/
theorem walk_population (accepted : main.Accepted) (limit seed : Int) (dice : Dice σ)
    (journal : Journal) : ∃ primary run t,
      generate limit seed ⟨dice, journal, ⟨[], main⟩⟩ = .ok primary run ∧
        run.scene.tree primary = .ok t ∧
        run.scene.main.profile.population = main.profile.population ∧
        ∀ s ∈ t.walk, ∀ content ∈ s.slots, ∀ w, content.Holds run.scene.main (.own w) →
          0 ≤ w.profile.population ∧
            w.profile.population ≤ max 0 (run.scene.main.profile.population - 1) := by
  obtain ⟨run, last, k, ran, generated⟩ := exists_generated accepted limit seed dice journal
  obtain ⟨t, tree, stars⟩ := generated.exists_tree
  have profile : run.scene.main.profile = main.profile :=
    (congrArg World.profile generated.charter :)
  refine ⟨0, run, t, ran, tree, by rw [profile], fun s hs content hcontent w hw => ?_⟩
  obtain ⟨id, found⟩ := stars s hs
  obtain ⟨i, held⟩ := List.getElem?_of_mem hcontent
  exact generated.sound.population_range generated.bareAsMoon found held hw

/-- No world in the system of a main world of its kind is as populous as that. -/
theorem walk_population_regina : World.regina.Accepted ∧ ∃ primary run t,
    generate 10 1 (⟨⟨(⟨1⟩ : Congruential), []⟩, [], ⟨[], .regina⟩⟩ : Run Congruential Atlas) =
      .ok primary run ∧ run.scene.tree primary = .ok t ∧
        run.scene.main.profile.population = World.regina.profile.population ∧
        ∀ s ∈ t.walk, ∀ content ∈ s.slots, ∀ w, content.Holds run.scene.main (.own w) →
          0 ≤ w.profile.population ∧
            w.profile.population ≤ max 0 (run.scene.main.profile.population - 1) :=
  ⟨World.accepted_regina, walk_population World.accepted_regina 10 1 _ _⟩

/-- **Lesser worlds are administered from the main world.**  In the tree of a generated system every
world other than the main world has a government, a law level, a starport and a tech level by the
rules: none at all, but for a poor starport, where nobody lives, and close to those of the main
world elsewhere.

**Proof sketch.** Rings are empty.  Other worlds are founded once, when these digits are rolled or
follow from the main world, whose own digits stay as they are; and a laboratory, which comes last,
changes the tech level of settled worlds alone. -/
theorem walk_administered (accepted : main.Accepted) (limit seed : Int) (dice : Dice σ)
    (journal : Journal) : ∃ primary run t,
      generate limit seed ⟨dice, journal, ⟨[], main⟩⟩ = .ok primary run ∧
        run.scene.tree primary = .ok t ∧
        ∀ s ∈ t.walk, ∀ content ∈ s.slots, ∀ w, content.Holds run.scene.main (.own w) →
          w.Administered run.scene.main := by
  obtain ⟨run, last, k, ran, generated⟩ := exists_generated accepted limit seed dice journal
  obtain ⟨t, tree, stars⟩ := generated.exists_tree
  refine ⟨0, run, t, ran, tree, fun s hs content hcontent w hw => ?_⟩
  obtain ⟨id, found⟩ := stars s hs
  obtain ⟨i, held⟩ := List.getElem?_of_mem hcontent
  exact generated.sound.administered generated.bareAsMoon found held hw

/-- The lesser worlds in the system of a main world of its kind are administered from that. -/
theorem walk_administered_regina : World.regina.Accepted ∧ ∃ primary run t,
    generate 10 1 (⟨⟨(⟨1⟩ : Congruential), []⟩, [], ⟨[], .regina⟩⟩ : Run Congruential Atlas) =
      .ok primary run ∧ run.scene.tree primary = .ok t ∧
        ∀ s ∈ t.walk, ∀ content ∈ s.slots, ∀ w, content.Holds run.scene.main (.own w) →
          w.Administered run.scene.main :=
  ⟨World.accepted_regina, walk_administered World.accepted_regina 10 1 _ _⟩

/-- **Facilities suit their worlds.**  Around every star of a generated system there are zones, and
every world other than the main world, in a slot of the star or a satellite, lies at the position of
the slot and has the facilities that suit it, these zones and the main world as they are in the end.

**Proof sketch.** Rings have no facilities.  Other worlds get theirs when they are founded, all in
one go, and what the rules read is not changed later: not the digits of the world and its position,
which is that of the slot for satellites too, nor the star, nor the digits and trade classes of the
main world. -/
theorem walk_equipped (accepted : main.Accepted) (limit seed : Int) (dice : Dice σ)
    (journal : Journal) : ∃ primary run t,
      generate limit seed ⟨dice, journal, ⟨[], main⟩⟩ = .ok primary run ∧
        run.scene.tree primary = .ok t ∧
        ∀ s ∈ t.walk, ∃ zones, s.star.zones = .ok zones ∧
          ∀ (i : Nat) (content : Slot), s.slots[i]? = some content →
            ∀ w, content.Holds run.scene.main (.own w) →
              w.position = i ∧ w.Equipped run.scene.main zones := by
  obtain ⟨run, last, k, ran, generated⟩ := exists_generated accepted limit seed dice journal
  obtain ⟨t, tree, stars⟩ := generated.exists_tree
  refine ⟨0, run, t, ran, tree, fun s hs => ?_⟩
  obtain ⟨id, found⟩ := stars s hs
  have sound := generated.sound
  obtain ⟨zones, zoned⟩ := (sound.stars found).classified.exists_zones
  refine ⟨zones, zoned, fun i content held w hw => ?_⟩
  exact ⟨sound.position_eq generated.bareAsMoon found held hw,
    sound.equipped generated.bareAsMoon found held hw zoned⟩

/-- The facilities in the system of a main world of its kind suit their worlds. -/
theorem walk_equipped_regina : World.regina.Accepted ∧ ∃ primary run t,
    generate 10 1 (⟨⟨(⟨1⟩ : Congruential), []⟩, [], ⟨[], .regina⟩⟩ : Run Congruential Atlas) =
      .ok primary run ∧ run.scene.tree primary = .ok t ∧
        ∀ s ∈ t.walk, ∃ zones, s.star.zones = .ok zones ∧
          ∀ (i : Nat) (content : Slot), s.slots[i]? = some content →
            ∀ w, content.Holds run.scene.main (.own w) →
              w.position = i ∧ w.Equipped run.scene.main zones :=
  ⟨World.accepted_regina, walk_equipped World.accepted_regina 10 1 _ _⟩

end Generator

end Starchart
