import Starchart.Proofs.Systems

/-!
# What stands in the slots of generated systems

A companion star takes the slot of its orbit and keeps it, except that the main world, when no orbit
of the primary star is left, takes any slot, whatever is in it.  Orbits inside a star are kept clear
of companion stars and of the worlds that fill up a system; but gas giants, belts and the main world
are put on any orbit that is left, be it inside the star.

## Main definitions

* `Starchart.Atlas.Houses` — a companion star in the slot of its orbit.
* `Starchart.Atlas.Ousts` — the main world in that slot.
* `Starchart.StarSystem.isCrowdedInside` — whether bodies of all three kinds stand inside a star.

## Main results

* `Starchart.Generator.walk_houses` — companions stand in the slots of their orbits.
* `Starchart.Generator.exists_ousted` — a system in which the main world took such a slot.
* `Starchart.Generator.walk_inside` — what stands inside of a star.
* `Starchart.Generator.exists_inside` — a system with bodies inside of a star.
-/

set_option autoImplicit false

namespace Starchart

/-! ## Companions -/

namespace Atlas

/-- Companion `id` of star `s` is on the chart.  If its orbit is among those of the star, apart from
the contact orbit, the companion is what the slot of that number holds. -/
def Houses (a : Atlas) (s : StarSystem) (id : StarId) : Prop :=
  ∃ c, a.star? id = some c ∧ ∀ i : Nat, c.orbit = i → 0 < i → (i : Int) < s.maxOrbits →
    s.slots[i]? = some (.star id c.name c.star)

/-- The main world stands around star `s` in the slot that has the number of companion `id`. -/
def Ousts (a : Atlas) (s : StarSystem) (id : StarId) : Prop :=
  ∃ (c : StarSystem) (i : Nat), a.star? id = some c ∧ c.orbit = i ∧ s.slots[i]? = some .main

variable {a : Atlas} {s : StarSystem} {id : StarId}

/-- A companion that lodges around a star is housed there, unless the main world took its slot. -/
lemma Lodges.houses (h : a.Lodges s id) (capacity : s.maxOrbits = s.slots.length)
    (kept : ¬a.Ousts s id) : a.Houses s id := by
  obtain ⟨c, found, stands⟩ := h
  refine ⟨c, found, fun i orbit outside below => ?_⟩
  rcases stands i orbit outside (by omega) with held | held
  · exact held
  · exact absurd ⟨c, i, found, orbit, held⟩ kept

end Atlas

namespace Generator

variable {σ : Type} [RandomSource σ] {main : World}

/-- On a generated chart the main world takes no slot of a companion of a companion, since it is not
seated around stars that have companions themselves, other than the primary star. -/
lemma Generated.not_ousts {a : Atlas} {last : StarId} {k : Nat} (h : Generated σ main last k a)
    {id companion : StarId} {s : StarSystem} (found : a.star? id = some s) (other : id ≠ 0)
    (own : companion ∈ s.companions) : ¬a.Ousts s companion := by
  rintro ⟨c, i, -, -, held⟩
  have seated := h.sound.seat_eq found held (Slot.mains_main_pos _)
  obtain ⟨rfl, rfl⟩ : last = id ∧ k = i := by simpa using seated
  obtain ⟨t, foundT, -, away⟩ := h.seat
  obtain rfl := Option.eq_some_unique found foundT
  rw [(away other).1] at own
  cases own

variable [Inexhaustible σ]

/-- **Companions stand in the slots of their orbits.**  In the tree of a generated system, every
companion of a star whose orbit is among those of that star is what the slot of that number holds.
There is one exception: around the root, the main world may have taken the slot.

**Proof sketch.** A companion that is attached on an orbit with a slot is placed in it.  Marking
orbits, attaching more companions and populating the chart leave it there.  Only the main world is
forced into a slot, and the star around which it is seated is the root or has no companions. -/
theorem walk_houses (accepted : main.Accepted) (limit seed : Int) (dice : Dice σ)
    (journal : Journal) : ∃ primary run t root companions,
      generate limit seed ⟨dice, journal, ⟨[], main⟩⟩ = .ok primary run ∧
        run.scene.tree primary = .ok t ∧ t.walk = root :: companions ∧
        (∀ id ∈ root.companions, run.scene.Houses root id ∨ run.scene.Ousts root id) ∧
        ∀ s ∈ companions, ∀ id ∈ s.companions, run.scene.Houses s id := by
  obtain ⟨run, last, k, ran, generated⟩ := exists_generated accepted limit seed dice journal
  obtain ⟨t, root, companions, tree, walk, foundRoot, others⟩ := generated.exists_walk
  have houses : ∀ {number : StarId} {s : StarSystem} {id : StarId},
      run.scene.star? number = some s → id ∈ s.companions → ¬run.scene.Ousts s id →
        run.scene.Houses s id := fun found own kept =>
    (generated.sound.lodged found own).houses (generated.sound.stars found).capacity kept
  refine ⟨0, run, t, root, companions, ran, tree, walk, fun id own => ?_, fun s hs id own => ?_⟩
  · by_cases ousted : run.scene.Ousts root id
    · exact .inr ousted
    · exact .inl (houses foundRoot own ousted)
  · obtain ⟨number, other, found⟩ := others s hs
    exact houses found own (generated.not_ousts found other own)

/-- The companions in the system of a main world of its kind are where their orbits say. -/
theorem walk_houses_regina : World.regina.Accepted ∧ ∃ primary run t root companions,
    generate 10 1 (⟨⟨(⟨1⟩ : Congruential), []⟩, [], ⟨[], .regina⟩⟩ : Run Congruential Atlas) =
      .ok primary run ∧ run.scene.tree primary = .ok t ∧ t.walk = root :: companions ∧
        (∀ id ∈ root.companions, run.scene.Houses root id ∨ run.scene.Ousts root id) ∧
        ∀ s ∈ companions, ∀ id ∈ s.companions, run.scene.Houses s id :=
  ⟨World.accepted_regina, walk_houses World.accepted_regina 10 1 _ _⟩

end Generator

/-! ### A companion that lost its slot -/

/-- A small airless main world without people. -/
def World.barren : World :=
  { name := "Barren"
    profile := {
      port := .X, size := 1, atmosphere := 0, hydro := 0, population := 0, government := 0
      law := 0, tech := 0 } }

/-- The digits of that world are those of its profile text. -/
lemma World.accepted_barren : World.barren.Accepted where
  read := ⟨['X', '1', '0', '0', '0', '0', '0', '-', '0'], false, by decide, nofun⟩
  bare := rfl

/-- Whether the main world stands in a slot. -/
def Slot.isMain : Slot → Bool
  | main => true
  | _ => false

/-- Whether the main world stands around star `s` in the slot that has the number of companion `id`,
which is not the contact orbit. -/
def Atlas.isOusted (a : Atlas) (s : StarSystem) (id : StarId) : Bool :=
  (a.star? id).any fun c => decide (0 < c.orbit ∧ c.orbit < s.maxOrbits) &&
    s.slots[c.orbit.toNat]?.any Slot.isMain

/-- A companion whose slot holds the main world is not housed. -/
lemma Atlas.not_houses_of_isOusted {a : Atlas} {s : StarSystem} {id : StarId}
    (h : a.isOusted s id = true) : ¬a.Houses s id := by
  rintro ⟨c, found, houses⟩
  rw [isOusted, found, Option.any_some, Bool.and_eq_true, decide_eq_true_iff] at h
  obtain ⟨⟨outside, below⟩, taken⟩ := h
  obtain ⟨i, orbit⟩ := Int.eq_ofNat_of_zero_le (Int.le_of_lt outside)
  rw [orbit, Int.toNat_natCast, houses i orbit (by omega) (orbit ▸ below)] at taken
  cases taken

namespace Generator

/-- A main world that took the slot of a companion of the root of its system. -/
theorem exists_ousted : World.barren.Accepted ∧ ∃ primary run t,
    generate 64 0 (⟨⟨(⟨844⟩ : Congruential), []⟩, [], ⟨[], .barren⟩⟩ : Run Congruential Atlas) =
      .ok primary run ∧ run.scene.tree primary = .ok t ∧
        ∃ s ∈ t.walk, ∃ id ∈ s.companions, ¬run.scene.Houses s id := by
  obtain ⟨primary, run, t, ran, tree, ousted⟩ := Gen.exists_of_treePasses
    (generate 64 0) ⟨⟨(⟨844⟩ : Congruential), []⟩, [], ⟨[], .barren⟩⟩
    (fun a t => t.walk.any fun s => s.companions.any (a.isOusted s)) (by decide +kernel)
  obtain ⟨s, hs, ousted⟩ := List.any_eq_true.mp ousted
  obtain ⟨id, own, ousted⟩ := List.any_eq_true.mp ousted
  exact ⟨World.accepted_barren, primary, run, t, ran, tree, s, hs, id, own,
    Atlas.not_houses_of_isOusted ousted⟩

end Generator

/-! ## Inside a star -/

/-- What stands in a slot inside of a star is no companion, and no world but the main world and
belts. -/
lemma Slot.Stands.clear_inside {σ : Type} [RandomSource σ] {a : Atlas} {s : StarSystem} {i : Nat}
    {content : Slot} {zones : Zones} (h : content.Stands σ a s i)
    (classified : s.star.Classified) (zoned : s.star.zones = .ok zones) (inside : (i : Int) ≤ zones.inside) :
    (∀ id name star, content ≠ .star id name star) ∧
      ∀ w, content = .world w → w.isBelt = true := by
  cases h with
  | star own found orbit outside clear => exact absurd (clear zoned) (Int.not_lt.mpr inside)
  | world rolled moons =>
    refine ⟨nofun, fun w same => ?_⟩
    cases same
    -- what lies inside the star lies in its hot zone, where no filler is put
    exact rolled.isBelt classified zoned
      (Int.le_trans inside (Star.inside_le_hot zoned))
  | _ => exact ⟨nofun, nofun⟩

namespace Generator

variable {σ : Type} [RandomSource σ] [Inexhaustible σ] {main : World}

/-- **Orbits inside a star.**  In the tree of a generated system, no companion star stands in a slot
that lies inside of its star, and no world does except for the main world and belts.

**Proof sketch.** A companion on an orbit inside of its parent is made a contact companion, which
takes no slot.  The worlds that fill up a system are put on orbits past the hot zone, and the inside
of a star is part of that. -/
theorem walk_inside (accepted : main.Accepted) (limit seed : Int) (dice : Dice σ)
    (journal : Journal) : ∃ primary run t,
      generate limit seed ⟨dice, journal, ⟨[], main⟩⟩ = .ok primary run ∧
        run.scene.tree primary = .ok t ∧ ∀ s ∈ t.walk, ∃ zones, s.star.zones = .ok zones ∧
          ∀ (i : Nat) (content : Slot), s.slots[i]? = some content → (i : Int) ≤ zones.inside →
            (∀ id name star, content ≠ .star id name star) ∧
              ∀ w, content = .world w → w.isBelt = true := by
  obtain ⟨run, last, k, ran, generated⟩ := exists_generated accepted limit seed dice journal
  obtain ⟨t, tree, stars⟩ := generated.exists_tree
  refine ⟨0, run, t, ran, tree, fun s hs => ?_⟩
  obtain ⟨id, found⟩ := stars s hs
  have sound := generated.sound
  have classified := (sound.stars found).classified
  obtain ⟨zones, zoned⟩ := classified.exists_zones
  exact ⟨zones, zoned, fun i content held inside =>
    (sound.slots found held).clear_inside classified zoned inside⟩

/-- What stands inside of a star in the system of a main world of its kind. -/
theorem walk_inside_regina : World.regina.Accepted ∧ ∃ primary run t,
    generate 10 1 (⟨⟨(⟨1⟩ : Congruential), []⟩, [], ⟨[], .regina⟩⟩ : Run Congruential Atlas) =
      .ok primary run ∧ run.scene.tree primary = .ok t ∧
        ∀ s ∈ t.walk, ∃ zones, s.star.zones = .ok zones ∧
          ∀ (i : Nat) (content : Slot), s.slots[i]? = some content → (i : Int) ≤ zones.inside →
            (∀ id name star, content ≠ .star id name star) ∧
              ∀ w, content = .world w → w.isBelt = true :=
  ⟨World.accepted_regina, walk_inside World.accepted_regina 10 1 _ _⟩

end Generator

/-! ### A star with bodies inside -/

/-- Whether a slot at or below the given number has a content of some kind. -/
def StarSystem.hasUpTo (s : StarSystem) (orbit : Int) (kind : Slot → Bool) : Bool :=
  s.numbered.any fun (i, content) => decide (i ≤ orbit) && kind content

/-- If there is such a content, there is a slot with it. -/
lemma StarSystem.exists_of_hasUpTo {s : StarSystem} {orbit : Int} {kind : Slot → Bool}
    (h : s.hasUpTo orbit kind = true) : ∃ (i : Nat) (content : Slot),
      s.slots[i]? = some content ∧ (i : Int) ≤ orbit ∧ kind content = true := by
  obtain ⟨⟨_, content⟩, mem, fits⟩ := List.any_eq_true.mp h
  obtain ⟨i, rfl, held⟩ := mem_numbered.mp mem
  obtain ⟨le, fits⟩ := Bool.and_eq_true_iff.mp fits
  exact ⟨i, content, held, of_decide_eq_true le, fits⟩

/-- Whether a belt stands in a slot. -/
def Slot.isBelt : Slot → Bool
  | world w => w.isBelt
  | _ => false

/-- Whether a gas giant, the main world and a belt all stand inside of a star. -/
def StarSystem.isCrowdedInside (s : StarSystem) : Bool :=
  match s.star.zones with
  | .error _ => false
  | .ok zones =>
    s.hasUpTo zones.inside Slot.isGiant && s.hasUpTo zones.inside Slot.isMain &&
      s.hasUpTo zones.inside Slot.isBelt

/-- A star that is crowded inside has a gas giant, the main world and a belt there.

**Proof sketch.** The check is a conjunction of three searches among the slots up to the inside of
the star, each of which found something. -/
lemma StarSystem.exists_of_isCrowdedInside {s : StarSystem} (h : s.isCrowdedInside = true) :
    ∃ zones, s.star.zones = .ok zones ∧
      (∃ (i : Nat) (g : GasGiant), s.slots[i]? = some (.giant g) ∧ (i : Int) ≤ zones.inside) ∧
      (∃ i : Nat, s.slots[i]? = some .main ∧ (i : Int) ≤ zones.inside) ∧
      ∃ (i : Nat) (w : World), s.slots[i]? = some (.world w) ∧ (i : Int) ≤ zones.inside ∧
        w.isBelt = true := by
  unfold isCrowdedInside at h
  split at h
  · cases h
  · rename_i zones zoned
    simp only [Bool.and_eq_true] at h
    obtain ⟨⟨giant, main⟩, belt⟩ := h
    refine ⟨zones, zoned, ?_, ?_, ?_⟩
    · obtain ⟨i, content, held, le, kind⟩ := exists_of_hasUpTo giant
      cases content with
      | giant g => exact ⟨i, g, held, le⟩
      | _ => cases kind
    · obtain ⟨i, content, held, le, kind⟩ := exists_of_hasUpTo main
      cases content with
      | main => exact ⟨i, held, le⟩
      | _ => cases kind
    · obtain ⟨i, content, held, le, kind⟩ := exists_of_hasUpTo belt
      cases content with
      | world w => exact ⟨i, w, held, le, kind⟩
      | _ => cases kind

namespace Generator

/-- A system with a gas giant, the main world and a belt inside of a star. -/
theorem exists_inside : World.barren.Accepted ∧ ∃ primary run t,
    generate 64 0 (⟨⟨(⟨91897⟩ : Congruential), []⟩, [], ⟨[], .barren⟩⟩ : Run Congruential Atlas) =
      .ok primary run ∧ run.scene.tree primary = .ok t ∧
        ∃ s ∈ t.walk, ∃ zones, s.star.zones = .ok zones ∧
          (∃ (i : Nat) (g : GasGiant),
            s.slots[i]? = some (.giant g) ∧ (i : Int) ≤ zones.inside) ∧
          (∃ i : Nat, s.slots[i]? = some .main ∧ (i : Int) ≤ zones.inside) ∧
          ∃ (i : Nat) (w : World), s.slots[i]? = some (.world w) ∧ (i : Int) ≤ zones.inside ∧
            w.isBelt = true := by
  obtain ⟨primary, run, t, ran, tree, crowded⟩ := Gen.exists_of_treePasses
    (generate 64 0) ⟨⟨(⟨91897⟩ : Congruential), []⟩, [], ⟨[], .barren⟩⟩
    (fun _ t => t.walk.any StarSystem.isCrowdedInside) (by decide +kernel)
  obtain ⟨s, hs, crowded⟩ := List.any_eq_true.mp crowded
  exact ⟨World.accepted_barren, primary, run, t, ran, tree, s, hs,
    StarSystem.exists_of_isCrowdedInside crowded⟩

end Generator

end Starchart
