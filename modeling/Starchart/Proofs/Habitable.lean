import Starchart.Proofs.Systems

/-!
# The habitable seat

A main world that needs a habitable zone is seated on the target orbit of the primary star or, if a
companion with orbits is there, on the target orbit of that companion.  No later step moves it, so
the final chart still tells how the search went and how many warnings it recorded.

## Main definitions

* `Starchart.Atlas.HabitableSeat` — the ways in which the search ends, as a final chart shows them.

## Main results

* `Starchart.Atlas.Course.exists_habitableSeat` — the search ends in one of these ways.
* `Starchart.Generator.habitable_seat` — this holds of the systems of all main worlds that need it.
-/

set_option autoImplicit false

namespace Starchart

variable {σ : Type} [RandomSource σ]

/-- How the search for a habitable orbit ended around star `root` with target `i`: with the content
of that slot, and the number of warnings besides those about the target.

* The slot holds the main world, and there was no companion in the way.
* The slot holds the main world, which took it from a companion without orbits.
* The slot holds a gas giant that has the main world as a moon.
* The slot holds a companion with orbits, and the main world is on the target orbit of that.
* The slot holds a companion without orbits, and the main world is in another slot. -/
inductive Atlas.HabitableSeat (a : Atlas) (root : StarSystem) (i : Nat) : Slot → Nat → Prop
  | slot (free : ∀ id ∈ root.companions, ∀ c, a.star? id = some c → 0 < i → c.orbit ≠ i) :
      HabitableSeat a root i .main 0
  | ousted {id : StarId} {c : StarSystem} (own : id ∈ root.companions)
      (found : a.star? id = some c) (outside : 0 < i) (orbit : c.orbit = i)
      (noOrbits : c.maxOrbits = 0) : HabitableSeat a root i .main 1
  | moon {g : GasGiant} (mem : .main ∈ g.satellites) (flag : a.main.isSatellite = true)
      (position : a.main.position = i) : HabitableSeat a root i (.giant g) 0
  | companion {id : StarId} {name : String} {star : Star} {c : StarSystem} {zones : Zones} {j : Nat}
      (own : id ∈ root.companions) (found : a.star? id = some c) (room : 0 < c.maxOrbits)
      (zoned : c.star.zones = .ok zones) (target : c.target zones = j)
      (held : c.slots[j]? = some .main) (position : a.main.position = j) :
      HabitableSeat a root i (.star id name star) (c.shortcomings zones)
  | barred {id : StarId} {name : String} {star : Star} {c : StarSystem} {k : Nat}
      (own : id ∈ root.companions) (found : a.star? id = some c) (noOrbits : c.maxOrbits = 0)
      (other : k ≠ i) (held : root.slots[k]? = some .main) :
      HabitableSeat a root i (.star id name star) 1

namespace StarSystem.Alike

variable {s t : StarSystem}

/-- Stars that are alike have the same target. -/
lemma target_eq (h : s.Alike t) (zones : Zones) : t.target zones = s.target zones := by
  rw [target, target, h.maxOrbits]

/-- They come with as many warnings. -/
lemma shortcomings_eq (h : s.Alike t) (zones : Zones) :
    t.shortcomings zones = s.shortcomings zones := by
  rw [shortcomings, shortcomings, h.maxOrbits]

end StarSystem.Alike

namespace Atlas

variable {limit : Int} {a b c e : Atlas} {last : StarId} {s root : StarSystem} {i k : Nat}
  {warnings : List Diagnostic}

/-! ## Facts about the final chart -/

/-- A gas giant in the slot around which the main world is seated has it as a moon. -/
lemma Sound.main_mem_satellites {id : StarId} {g : GasGiant} (sound : a.Sound σ (some (id, i)))
    (found : a.star? id = some s) (held : s.slots[i]? = some (.giant g)) :
    .main ∈ g.satellites := by
  have once := sound.mains found held
  rw [if_pos rfl, Slot.mains] at once
  obtain ⟨m, mem, isMain⟩ := List.countP_pos_iff.mp (once ▸ Nat.one_pos)
  cases m with
  | main => exact mem
  | own w => cases isMain

/-- Before the main world is seated, no companion has the number of a slot with other content. -/
lemma Sound.orbit_ne {id companion : StarId} {d : StarSystem} {content : Slot}
    (sound : a.Sound σ none) (found : a.star? id = some s) (held : s.slots[i]? = some content)
    (noStar : ∀ companion name star, content ≠ .star companion name star)
    (own : companion ∈ s.companions) (foundD : a.star? companion = some d) (outside : 0 < i) :
    d.orbit ≠ i := by
  intro orbit
  obtain ⟨d', foundD', stands⟩ := sound.lodged found own
  obtain rfl := Option.eq_some_unique foundD foundD'
  rcases stands i orbit outside (List.getElem?_eq_some_iff.mp held).1 with star | main
  · exact noStar _ _ _ (Option.eq_some_unique held star)
  · exact absurd (sound.mains_eq_zero found main) (Nat.ne_of_gt (Slot.mains_main_pos _))

/-- The main world keeps its flag and its position. -/
lemma Reaches.main_place {seat : Option (StarId × Nat)} (h : Reaches σ limit a b)
    (start : a.Sound σ seat) : b.main.isSatellite = a.main.isSatellite ∧
      b.main.position = a.main.position :=
  ⟨(congrArg World.isSatellite (h.bare_eq start) :),
    (congrArg World.position (h.bare_eq start) :)⟩

/-! ## The end of the search -/

section Search

variable (sound : b.Sound σ none) (found : b.star? 0 = some s) (arrives : b.Arrives σ last k c)
  (steps : Reaches σ limit c e) (foundRoot : e.star? 0 = some root)

include arrives steps

/-- Stars stay alike from before the search to the end. -/
lemma Arrives.exists_alike {id : StarId} {u : StarSystem} (known : b.star? id = some u) :
    ∃ w, e.star? id = some w ∧ u.Alike w := by
  obtain ⟨v, foundV, alike, -⟩ := arrives.star known
  obtain ⟨w, foundW, alike', -⟩ := steps.star arrives.sound foundV
  exact ⟨w, foundW, alike.trans alike'⟩

/-- The main world stays where it was seated in a slot. -/
lemma Arrives.main_slot {id : StarId} {w : StarSystem} {j : Nat}
    (seated : c.slot? id j = some .main) (after : e.star? id = some w) :
    w.slots[j]? = some .main := by
  obtain ⟨v, foundV, held⟩ := Atlas.exists_star seated
  exact steps.main_slot arrives.sound foundV after held

include sound found foundRoot

/-- The search ends in a slot without a companion. -/
lemma habitableSeat_of_slot {content : Slot} (held : s.slots[i]? = some content)
    (noStar : ∀ companion name star, content ≠ .star companion name star)
    (seated : c.slot? 0 i = some .main) :
    root.slots[i]? = some .main ∧ e.HabitableSeat root i .main 0 := by
  obtain ⟨w, foundW, alike⟩ := arrives.exists_alike steps found
  obtain rfl := Option.eq_some_unique foundRoot foundW
  refine ⟨arrives.main_slot steps seated foundRoot, .slot fun id own d foundD outside => ?_⟩
  rw [alike.companions] at own
  obtain ⟨u, foundU, -⟩ := sound.lodged found own
  obtain ⟨d', foundD', alike'⟩ := arrives.exists_alike steps foundU
  obtain rfl := Option.eq_some_unique foundD foundD'
  rw [alike'.orbit]
  exact sound.orbit_ne found held noStar own foundU outside

/-- The search goes on to a companion, which stays on the target orbit.

**Proof sketch.** The main world is in a slot of the companion, so the slot of the primary star that
the search came by still holds the companion. Both stars are found alike in the end, with the slots
that were decided, and shortcomings and target are read off what is alike. -/
lemma habitableSeat_of_companion {companion : StarId} {name : String} {star : Star} {u : StarSystem}
    {zones : Zones} {j : Nat} (held : s.slots[i]? = some (.star companion name star))
    (other : companion ≠ 0) (foundU : b.star? companion = some u) (room : u.maxOrbits ≠ 0)
    (zoned : u.star.zones = .ok zones) (target : u.target zones = j) (here : last = companion)
    (seated : c.slot? companion j = some .main) (position : c.main.position = j) :
    root.slots[i]? = some (.star companion name star) ∧
      e.HabitableSeat root i (.star companion name star) (u.shortcomings zones) := by
  obtain ⟨v, foundV, alike, -, -, slots⟩ := arrives.star found
  obtain ⟨w, foundW, alike', -⟩ := steps.star arrives.sound foundV
  obtain rfl := Option.eq_some_unique foundRoot foundW
  obtain ⟨x, foundX, alikeX⟩ := arrives.exists_alike steps foundU
  have held' : v.slots[i]? = some (.star companion name star) := by
    rwa [slots fun same => other (here.symm.trans same.symm)]
  refine ⟨steps.star_slot arrives.sound foundV foundRoot held', ?_⟩
  rw [← alikeX.shortcomings_eq zones]
  have capacity := (sound.stars foundU).capacity
  refine .companion ?_ foundX ?_ (alikeX.star ▸ zoned) ((alikeX.target_eq zones).trans target)
    (arrives.main_slot steps seated foundX)
    ((steps.main_place arrives.sound).2.trans position)
  · rw [alike'.companions, alike.companions]
    cases sound.slots found held with
    | star own => exact own
  · rw [alikeX.maxOrbits]
    omega

end Search

/-- The search ends at a gas giant. -/
lemma habitableSeat_of_moon {g : GasGiant} (arrives : b.Arrives σ 0 i c)
    (steps : Reaches σ limit c e) (foundRoot : e.star? 0 = some root)
    (seated : c.slot? 0 i = some (.giant g)) (flag : c.main.isSatellite = true)
    (position : c.main.position = i) : ∃ g', root.slots[i]? = some (.giant g') ∧
      e.HabitableSeat root i (.giant g') 0 := by
  obtain ⟨v, foundV, held⟩ := exists_star seated
  obtain ⟨content, held', becomes⟩ := steps.slot arrives.sound foundV foundRoot held
  have place := steps.main_place arrives.sound
  have moon : ∀ {g' : GasGiant}, root.slots[i]? = some (.giant g') →
      e.HabitableSeat root i (.giant g') 0 := fun after =>
    .moon ((steps.sound arrives.sound).main_mem_satellites foundRoot after)
      (place.1.trans flag) (place.2.trans position)
  cases becomes with
  | kept => exact ⟨_, held', moon held'⟩
  | giant => exact ⟨_, held', moon held'⟩

/-- The search ends with a companion without orbits, and the main world takes any slot.

**Proof sketch.** The main world took some slot of the primary star. If that is the very slot of the
companion, the companion was ousted; if not, it is still there, barred for want of orbits. Either
way it keeps its orbit and stays without orbits of its own. -/
lemma habitableSeat_of_barred {companion : StarId} {name : String} {star : Star} {u : StarSystem}
    (sound : b.Sound σ none) (found : b.star? 0 = some s) (arrives : b.Arrives σ 0 k c)
    (steps : Reaches σ limit c e) (foundRoot : e.star? 0 = some root)
    (held : s.slots[i]? = some (.star companion name star))
    (foundU : b.star? companion = some u) (noOrbits : u.maxOrbits = 0)
    (seated : c.slot? 0 k = some .main)
    (others : ∀ v, c.star? 0 = some v → k ≠ i → v.slots[i]? = s.slots[i]?) :
    ∃ content, root.slots[i]? = some content ∧ e.HabitableSeat root i content 1 := by
  obtain ⟨v, foundV, alike, -⟩ := arrives.star found
  obtain ⟨w, foundW, alike', -⟩ := steps.star arrives.sound foundV
  obtain rfl := Option.eq_some_unique foundRoot foundW
  obtain ⟨x, foundX, alikeX⟩ := arrives.exists_alike steps foundU
  have heldMain := arrives.main_slot steps seated foundRoot
  have noOrbits' : x.maxOrbits = 0 := alikeX.maxOrbits.trans noOrbits
  cases sound.slots found held with
  | @star _ _ _ u' own foundU' orbit outside =>
    obtain rfl := Option.eq_some_unique foundU foundU'
    rw [← alike.companions, ← alike'.companions] at own
    by_cases same : k = i
    · subst same
      exact ⟨_, heldMain, .ousted own foundX outside (alikeX.orbit.trans orbit) noOrbits'⟩
    · have held' : v.slots[i]? = some (.star companion name star) :=
        (others v foundV same).trans held
      exact ⟨_, steps.star_slot arrives.sound foundV foundRoot held',
        .barred own foundX noOrbits' same heldMain⟩

/-- The search for a habitable orbit around the primary star ends in one of these ways, with as many
warnings as the outcome says.

**Proof sketch.** A companion in a slot of the primary star has undecided slots only, so where the
search goes on to it, the main world takes its target orbit and the search is over. -/
lemma Search.exists_habitableSeat {path : List StarId}
    (search : ((Population.readied b 0 s).assign 0).Search σ 0 i path last k warnings c)
    (sound : b.Sound σ none) (found : b.star? 0 = some s) (primary : s.orbit = Orbit.primary)
    (near : b.NearBare) (arrives : b.Arrives σ last k c) (steps : Reaches σ limit c e)
    (foundRoot : e.star? 0 = some root) :
    ∃ content, root.slots[i]? = some content ∧ e.HabitableSeat root i content warnings.length := by
  have ready := star?_readied found [0] found
  cases search with
  | slot found' held noStar noGiant seating =>
    obtain rfl := Option.eq_some_unique ready found'
    exact ⟨_, habitableSeat_of_slot sound found arrives steps foundRoot held noStar
      seating.slot_eq⟩
  | moon found' held seating =>
    obtain ⟨g, g', -, after, -, flag⟩ := seating.exists_giant
    obtain ⟨g'', held', seat⟩ :=
      habitableSeat_of_moon arrives steps foundRoot after flag seating.position_eq
    exact ⟨_, held', seat⟩
  | barred found' held foundC noOrbits seating =>
    obtain rfl := Option.eq_some_unique ready found'
    obtain ⟨-, u, foundU, -⟩ := sound.exists_companion found primary near held
    obtain rfl := Option.eq_some_unique (star?_readied found [0] foundU) foundC
    refine habitableSeat_of_barred sound found arrives steps foundRoot held foundU noOrbits
      seating.slot_eq fun v foundV other => ?_
    obtain ⟨slots, foundV', -, others⟩ := seating.exists_slots found'
    obtain rfl := Option.eq_some_unique foundV' foundV
    exact others i fun here => other here.2.symm
  | @into _ _ _ companion _ _ _ _ j _ _ _ zones path warnings found' held foundC room zoned target
      rest =>
    obtain rfl := Option.eq_some_unique ready found'
    obtain ⟨other, u, foundU, -, -, undecided⟩ := sound.exists_companion found primary near held
    obtain rfl := Option.eq_some_unique (star?_readied found [0] foundU) foundC
    have ready' := star?_readied found [0, companion] foundU
    cases rest with
    | slot found'' held' noStar noGiant seating =>
      rw [List.append_nil, StarSystem.length_compromises]
      exact ⟨_, habitableSeat_of_companion (u := u) sound found arrives steps foundRoot held other
        foundU room zoned target rfl seating.slot_eq seating.position_eq⟩
    | moon found'' held' seating =>
      obtain rfl := Option.eq_some_unique ready' found''
      cases undecided held'
    | barred found'' held' foundD noOrbits seating =>
      obtain rfl := Option.eq_some_unique ready' found''
      cases undecided held'
    | into found'' held' foundD room' zoned' target' rest' =>
      obtain rfl := Option.eq_some_unique ready' found''
      cases undecided held'

/-- Populating a fresh chart leaves a main world that needs a habitable zone on a habitable seat,
and there are as many warnings as the target of the primary star has shortcomings and the seat says.

**Proof sketch.** The search starts from the target of the primary star as it was seeded, and the
star is alike in the end. The compromises on the target come first, one for each shortcoming, and
the search tells the seat and what it warned of on the way. -/
theorem Course.exists_habitableSeat (h : a.Course σ limit last k warnings e)
    (start : a.Sound σ none) (needs : a.main.profile.needsHabitable = true)
    (foundRoot : e.star? 0 = some root) :
    ∃ (zones : Zones) (i : Nat) (content : Slot) (extra : Nat), root.star.zones = .ok zones ∧
      root.target zones = i ∧ root.slots[i]? = some content ∧ e.HabitableSeat root i content extra ∧
        warnings.length = root.shortcomings zones + extra := by
  cases h with
  | @intro b c d s path seeded found primary near placed arrives completed finished below =>
  have sound := seeded.reaches.sound start
  have steps := completed.reaches.trans below.reaches
  obtain ⟨w, foundW, alike⟩ := arrives.exists_alike steps found
  obtain rfl := Option.eq_some_unique foundRoot foundW
  cases placed with
  | anywhere undemanding seating =>
    rw [seeded.reaches.main_eq start, needs] at undemanding
    cases undemanding
  | @habitable _ zones i _ _ _ warnings needs' zoned target search =>
    obtain ⟨content, held, seat⟩ :=
      search.exists_habitableSeat sound found primary near arrives steps foundRoot
    refine ⟨zones, i, content, warnings.length, alike.star ▸ zoned,
      (alike.target_eq zones).trans target, held, seat, ?_⟩
    rw [List.length_append, StarSystem.length_compromises, alike.shortcomings_eq]

end Atlas

namespace Generator

variable [Inexhaustible σ] {main : World}

/-- **The seat of a main world that needs a habitable zone.**  In a generated system of such a main
world, the target slot of the root holds the main world, a gas giant with the main world as a moon,
a companion with orbits that has the main world on its own target slot, or a companion without
orbits, while the main world is in another slot of the root.  The warnings about zones that the run
recorded are one for each shortcoming of the root and, if the search went on to a companion, of
that; and one more if there was a companion without orbits on the target.

**Proof sketch.** The search has one case for each content of the target slot, and each case ends
with a seat.  The later steps only decide undecided slots and furnish bodies with satellites, so
they keep the main world and the companions in their slots, and a gas giant keeps the main world as
its moon.  No other step warns about zones. -/
theorem habitable_seat (accepted : main.Accepted) (needs : main.profile.needsHabitable = true)
    (limit seed : Int) (dice : Dice σ) (journal : Journal) :
    ∃ primary run t root companions, ∃ (zones : Zones) (i : Nat) (content : Slot) (extra : Nat),
      generate limit seed ⟨dice, journal, ⟨[], main⟩⟩ = .ok primary run ∧
        run.scene.tree primary = .ok t ∧ t.walk = root :: companions ∧
        root.star.zones = .ok zones ∧ root.target zones = i ∧ root.slots[i]? = some content ∧
        run.scene.HabitableSeat root i content extra ∧
        run.journal.zoneWarnings.length =
          journal.zoneWarnings.length + (root.shortcomings zones + extra) := by
  obtain ⟨_, run, ran, rfl, a, last, k, warnings, built, course, recorded⟩ :=
    (ends_generate (σ := σ) accepted.inRange accepted.bare limit seed dice journal).exists_ok
  have generated := generated_of_course accepted.inRange built course
  obtain ⟨t, root, companions, tree, walk, foundRoot, -⟩ := generated.exists_walk
  have start := sound_of_built (σ := σ) accepted.inRange built
  have needs' : a.main.profile.needsHabitable = true := by
    rw [built.main_eq]
    exact needs
  obtain ⟨zones, i, content, extra, zoned, target, held, seat, count⟩ :=
    course.exists_habitableSeat start needs' foundRoot
  refine ⟨0, run, t, root, companions, zones, i, content, extra, ran, tree, walk, zoned, target,
    held, seat, ?_⟩
  rw [recorded, List.length_append, count]

/-- Where the main world of this kind is in its system. -/
theorem habitable_seat_regina : World.regina.Accepted ∧
    World.regina.profile.needsHabitable = true ∧
    ∃ primary run t root companions, ∃ (zones : Zones) (i : Nat) (content : Slot) (extra : Nat),
      generate 10 1 (⟨⟨(⟨1⟩ : Congruential), []⟩, [], ⟨[], .regina⟩⟩ : Run Congruential Atlas) =
        .ok primary run ∧ run.scene.tree primary = .ok t ∧ t.walk = root :: companions ∧
        root.star.zones = .ok zones ∧ root.target zones = i ∧ root.slots[i]? = some content ∧
        run.scene.HabitableSeat root i content extra ∧
        run.journal.zoneWarnings.length = root.shortcomings zones + extra := by
  obtain ⟨primary, run, t, root, companions, zones, i, content, extra, ran, tree, walk, zoned,
    target, held, seat, count⟩ := habitable_seat World.accepted_regina (by decide) 10 1
      ⟨(⟨1⟩ : Congruential), []⟩ []
  exact ⟨World.accepted_regina, by decide, primary, run, t, root, companions, zones, i, content,
    extra, ran, tree, walk, zoned, target, held, seat, count.trans (Nat.zero_add _)⟩

end Generator

end Starchart
