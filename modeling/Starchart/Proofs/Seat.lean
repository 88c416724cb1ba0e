import Starchart.Proofs.Effects
import Starchart.Proofs.Layout

/-!
# The seat of the main world

Seating the main world never fails on stars that are nested finitely deep.  The search goes down
from companion to companion, and at its end one slot changes: the main world takes it, or becomes a
moon of the gas giant there.  Wherever the habitable zone is no use, a warning is recorded.

## Main definitions

* `Starchart.StarSystem.target` — the orbit to aim at around a star.
* `Starchart.StarSystem.compromises` — the warnings that come with it.
* `Starchart.Atlas.Nests` — companions stand in each other's slots only so deep.
* `Starchart.Atlas.Descends` — a way down from star to companion.
* `Starchart.Atlas.assigned` — the chart with the main world assigned to some stars.
* `Starchart.Atlas.Seating` — the main world seated in or around a slot.
* `Starchart.Atlas.Search` — the search for a seat, with the warnings on its way.
* `Starchart.Atlas.Placement` — the whole phase.

## Main results

* `Starchart.Population.ends_habitableTarget` — the orbit to aim at and its warnings.
* `Starchart.Population.ends_descend` — the search ends with a seat.
* `Starchart.Population.ends_placeMain` — so does the whole phase.
-/

set_option autoImplicit false

namespace Starchart

/-! ## Where to aim -/

/-- The orbit that a main world aims at around a star: the habitable zone, or the edge of the inner
zone where there is none. -/
def Zones.aim (zones : Zones) : Int :=
  if zones.habitableOrbit < 0 then max zones.inner 0 else zones.habitableOrbit

/-- The aim does not lie below the innermost orbit. -/
lemma Zones.aim_nonneg (zones : Zones) : 0 ≤ zones.aim := by
  unfold aim
  split <;> omega

namespace StarSystem

/-- The orbit that the search for a seat turns to: the aim, kept within the orbits of the star. -/
def target (s : StarSystem) (zones : Zones) : Int :=
  min zones.aim (s.maxOrbits - 1)

/-- The warnings that come with the target: there is no habitable zone, and the aim lies beyond the
orbits of the star. -/
def compromises (s : StarSystem) (zones : Zones) : List Diagnostic :=
  (if zones.habitableOrbit < 0 then [Population.noHabitableZone s zones.aim] else []) ++
    if s.maxOrbits ≤ zones.aim then [Population.beyondOrbits s zones.aim (s.maxOrbits - 1)] else []

/-- How many such warnings there are. -/
def shortcomings (s : StarSystem) (zones : Zones) : Nat :=
  (if zones.habitableOrbit < 0 then 1 else 0) + if s.maxOrbits ≤ zones.aim then 1 else 0

/-- The warnings are as many as counted. -/
@[simp] lemma length_compromises (s : StarSystem) (zones : Zones) :
    (s.compromises zones).length = s.shortcomings zones := by
  rw [compromises, shortcomings, List.length_append, apply_ite List.length, apply_ite List.length]
  rfl

/-- All of them are warnings about zones. -/
lemma warns_of_mem_compromises {s : StarSystem} {zones : Zones} :
    ∀ d ∈ s.compromises zones, d.severity = .warning ∧ d.category = .zone := by
  intro d mem
  rcases List.mem_append.mp mem with mem | mem <;> split at mem
  · exact List.mem_singleton.mp mem ▸ ⟨rfl, rfl⟩
  · cases mem
  · exact List.mem_singleton.mp mem ▸ ⟨rfl, rfl⟩
  · cases mem

/-- The target around a regular star with orbits is one of them. -/
lemma Regular.exists_target {s : StarSystem} (regular : s.Regular) (some : 0 < s.slots.length)
    (zones : Zones) : ∃ i : Nat, s.target zones = i ∧ i < s.slots.length := by
  have capacity := regular.capacity
  have nonneg := zones.aim_nonneg
  refine ⟨(s.target zones).toNat, ?_, ?_⟩ <;> unfold target <;> omega

end StarSystem

/-! ## Stars in slots -/

namespace Atlas

/-- Below a star, companions stand in each other's slots at most the given number of levels deep,
and all of them are regular. The number bounds the search for a seat, which goes down one level at a
time. -/
inductive Nests (a : Atlas) : Nat → StarId → Prop
  | intro {depth : Nat} {id : StarId} {s : StarSystem} (found : a.star? id = some s)
      (regular : s.Regular)
      (inner : ∀ {i : Nat} {companion : StarId} {name : String} {star : Star},
        s.slots[i]? = some (.star companion name star) → Nests a depth companion) :
      Nests a (depth + 1) id

/-- A way down from a star by way of companions in slots, which are listed, to the last of them.
This is how the search for a habitable seat goes on when it comes to a companion. -/
inductive Descends (a : Atlas) : StarId → List StarId → StarId → Prop
  | here {id : StarId} : Descends a id [] id
  | into {id companion last : StarId} {path : List StarId} {s : StarSystem} {i : Nat}
      {name : String} {star : Star} (found : a.star? id = some s)
      (held : s.slots[i]? = some (.star companion name star))
      (rest : Descends a companion path last) :
      Descends a id (companion :: path) last

/-- The chart with the main world assigned to a star. -/
def assign (a : Atlas) (id : StarId) : Atlas :=
  a.modifyStar id fun s => { s with hasMain := true }

/-- The chart with the main world assigned to several stars. -/
def assigned (a : Atlas) (ids : List StarId) : Atlas := ids.foldl assign a

variable {a : Atlas}

/-- Assigning the main world to a star marks it and leaves the others alone. -/
lemma star?_assign (a : Atlas) (id other : StarId) :
    (a.assign id).star? other =
      (a.star? other).map fun s => { s with hasMain := s.hasMain || decide (other = id) } := by
  change (a.stars.modify id _)[other]? = (a.stars[other]?).map _
  rw [List.getElem?_modify]
  by_cases same : other = id
  · subst same
    cases a.stars[other]? <;> simp
  · cases a.stars[other]? <;> simp [same, Ne.symm same]

/-- The star that the main world is assigned to is marked. -/
lemma star?_assign_self {id : StarId} {s : StarSystem} (found : a.star? id = some s) :
    (a.assign id).star? id = some { s with hasMain := true } := by
  rw [star?_assign, found]
  simp

/-- Assigning the main world to stars marks them and leaves the others alone. -/
lemma star?_assigned (a : Atlas) (ids : List StarId) (other : StarId) :
    (a.assigned ids).star? other =
      (a.star? other).map fun s => { s with hasMain := s.hasMain || decide (other ∈ ids) } := by
  induction ids generalizing a with
  | nil => cases h : a.star? other <;> simp [assigned, h]
  | cons id ids ih =>
    change ((a.assign id).assigned ids).star? other = _
    rw [ih, star?_assign, Option.map_map]
    congr 1
    funext s
    simp [Bool.or_assoc]

/-- Assigning the main world does not change it. -/
@[simp] lemma main_assigned (a : Atlas) (ids : List StarId) : (a.assigned ids).main = a.main := by
  induction ids generalizing a with
  | nil => rfl
  | cons id ids ih => exact ih (a.assign id)

/-- Assigning the main world adds no stars. -/
@[simp] lemma length_assigned (a : Atlas) (ids : List StarId) :
    (a.assigned ids).stars.length = a.stars.length := by
  induction ids generalizing a with
  | nil => rfl
  | cons id ids ih => exact (ih (a.assign id)).trans (List.length_modify _ _ _)

/-- A star below which companions are nested is known and regular. -/
lemma Nests.exists_star {depth : Nat} {id : StarId} (h : a.Nests depth id) :
    ∃ s, a.star? id = some s ∧ s.Regular := by
  cases h with
  | intro found regular inner => exact ⟨_, found, regular⟩

/-- How deep companions are nested does not depend on whom the main world is assigned to. -/
lemma Nests.assign {depth : Nat} {id : StarId} (h : a.Nests depth id) (other : StarId) :
    (a.assign other).Nests depth id := by
  induction h with
  | @intro depth id s found regular inner ih =>
    have found' : (a.assign other).star? id =
        some { s with hasMain := s.hasMain || decide (id = other) } := by
      rw [star?_assign, found]
      rfl
    exact .intro found' ⟨regular.classified, regular.capacity, regular.countable⟩
      fun held => ih held

/-- A way down does not depend on whom the main world is assigned to. -/
lemma Descends.of_assign {id other last : StarId} {path : List StarId}
    (h : (a.assign other).Descends id path last) : a.Descends id path last := by
  induction h with
  | here => exact .here
  | into found held rest ih =>
    rw [star?_assign] at found
    obtain ⟨before, known, rfl⟩ := Option.map_eq_some_iff.mp found
    exact .into known held ih

end Atlas

/-! ## Seats -/

/-- Where the main world may be seated: in a slot, or as a moon of the gas giant there. In a slot it
displaces what was there, as a moon it displaces nothing. -/
inductive Berth where
  | slot
  | moon

/-- The main world seated at slot `i` of a star: in the slot itself, whatever that held, or as a
moon of the gas giant there. -/
inductive Atlas.Seating (σ : Type) [RandomSource σ] (a : Atlas) (id : StarId) (i : Nat) :
    Berth → Atlas → Prop
  | inSlot {s : StarSystem} {content : Slot} {astro : Astro} (found : a.star? id = some s)
      (held : s.slots[i]? = some content)
      (surveyed : (Astro.roll s.star i a.main.profile : Roll σ Astro).CanGive astro) :
      Seating σ a id i .slot { a.setStar id { s with slots := s.slots.set i .main } with
        main := { a.main with orbit := i, position := i, astro := some astro } }
  | asMoon {s : StarSystem} {g : GasGiant} {orbit : Int} {astro : Astro}
      (found : a.star? id = some s) (held : s.slots[i]? = some (.giant g))
      (free : orbit ∉ (Host.giant g).takenOrbits { a.main with isSatellite := true })
      (outside : (∀ o ∈ (Host.giant g).takenOrbits { a.main with isSatellite := true }, 0 < o) →
        0 < orbit)
      (surveyed : (Astro.roll s.star i a.main.profile : Roll σ Astro).CanGive astro) :
      Seating σ a id i .moon
        { a.setStar id { s with
            slots := s.slots.set i (.giant { g with satellites := g.satellites ++ [.main] }) } with
          main := { a.main with
            isSatellite := true, orbit := orbit, position := i, astro := some astro } }

/-- A regular star answers with the content of a slot it has. -/
lemma StarSystem.slot_eq {s : StarSystem} (regular : s.Regular) {i : Nat} {content : Slot}
    (held : s.slots[i]? = some content) : s.slot i = .ok content := by
  have lt := (List.getElem?_eq_some_iff.mp held).1
  have countable : isCountable i = true := by
    have := regular.countable
    simp only [isCountable, Bool.and_eq_true, decide_eq_true_eq]
    omega
  have nonneg : ¬(i : Int) < 0 := by omega
  simp [slot, countable, nonneg, held]

/-- What a star answers is the content of one of its slots. -/
lemma StarSystem.exists_of_slot {s : StarSystem} {orbit : Int} {content : Slot}
    (held : s.slot orbit = .ok content) : ∃ i : Nat, s.slots[i]? = some content := by
  unfold slot at held
  dsimp only at held
  generalize (if orbit < 0 then orbit + s.slots.length else orbit) = index at held
  split at held
  · cases held
  split at held
  · split at held
    · rename_i found
      exact ⟨index.toNat, found.trans (congrArg some (Except.ok.inj held))⟩
    · cases held
  · cases held

/-- The main world can be forced into any slot. -/
lemma Atlas.force_main {a : Atlas} {id : StarId} {s : StarSystem} (found : a.star? id = some s)
    (capacity : s.maxOrbits = s.slots.length) {i : Nat} {content : Slot}
    (held : s.slots[i]? = some content) :
    a.force id .main i = .ok (content,
      { a.setStar id { s with slots := s.slots.set i .main } with
        main := { a.main with orbit := i } }) := by
  have forced : s.force .main i =
      .ok (content, { s with slots := s.slots.set i .main }) := by
    rw [StarSystem.force, StarSystem.slotAt?_natCast (by omega), held]
    rfl
  rw [Atlas.force, star_eq found]
  simp only [bind, Except.bind, forced]
  rfl

namespace Gen

variable {σ : Type} [RandomSource σ] {run : Run σ Atlas}

/-- Looking at a known star. -/
lemma ends_star {id : StarId} {s : StarSystem} {Q : StarSystem → Run σ Atlas → Prop}
    (found : run.scene.star? id = some s) : (star id).Ends run Q ↔ Q s run := by
  rw [star, ends_bind, ends_scene, ends_ofExcept (Atlas.star_eq found)]

/-- Looking at the main world. -/
@[simp] lemma ends_main {Q : World → Run σ Atlas → Prop} :
    (main : Gen σ Atlas World).Ends run Q ↔ Q run.scene.main run := Iff.rfl

/-- Changing the main world. -/
@[simp] lemma ends_changeMain {f : World → World} {Q : Unit → Run σ Atlas → Prop} :
    (changeMain f : Gen σ Atlas Unit).Ends run Q ↔
      Q () { run with scene := { run.scene with main := f run.scene.main } } := Iff.rfl

/-- A step on one star of a chart. -/
lemma ends_onStar {α : Type} {id : StarId} {s : StarSystem} {x : Gen σ StarSystem α}
    {Q : α → Run σ Atlas → Prop} (found : run.scene.star? id = some s) :
    (onStar id x).Ends run Q ↔ x.Ends ⟨run.dice, run.journal, s⟩ fun v inner =>
      Q v ⟨inner.dice, inner.journal, run.scene.setStar id inner.scene⟩ := by
  rw [onStar, ends_bind, ends_star found, ends_onPart]

end Gen

namespace Population

variable {σ : Type} [RandomSource σ] {least : Int} {id : StarId} {s : StarSystem}
  {run : Run σ Atlas}

/-- Assigning the main world to a star. -/
@[simp] lemma ends_assign {Q : Unit → Run σ Atlas → Prop} :
    (assign id : Gen σ Atlas Unit).Ends run Q ↔
      Q () { run with scene := run.scene.assign id } := Iff.rfl

/-- Surveying the main world. -/
lemma ends_surveyMain {star : Star} (classified : star.Classified)
    (charted : run.scene.main.profile.InRange least) :
    (surveyMain star).Ends run fun _ after => ∃ astro,
      (Astro.roll star run.scene.main.position run.scene.main.profile :
        Roll σ Astro).CanGive astro ∧
      after.scene = { run.scene with main := { run.scene.main with astro := some astro } } := by
  rw [surveyMain, Gen.ends_bind, Gen.ends_main, Gen.ends_bind]
  refine Gen.ends_roll (P := fun w => ∃ astro, (Astro.roll star run.scene.main.position
    run.scene.main.profile : Roll σ Astro).CanGive astro ∧
    w = { run.scene.main with astro := some astro }) ?_ fun w dice hw => ?_
  · refine (Astro.gives_roll classified charted.size.2 charted.hydro _).canGive.bind fun astro hastro => ?_
    exact Roll.gives_pure ⟨astro, hastro.2, rfl⟩
  · obtain ⟨astro, hastro, rfl⟩ := hw
    exact ⟨astro, hastro, rfl⟩

/-- Seating the main world in a slot.

**Proof sketch.** The slot is there, so that the main world can be forced into it, whatever it
holds; that is noted if it is a body. Surveying the main world does not fail around a classified
star. -/
lemma ends_seat {i : Nat} (charted : run.scene.main.profile.InRange least)
    (found : run.scene.star? id = some s) (regular : s.Regular) (lt : i < s.slots.length) :
    (seat id i : Gen σ Atlas Unit).Ends run fun _ after =>
      run.scene.Seating σ id i .slot after.scene := by
  have held : s.slots[i]? = some s.slots[i] := List.getElem?_eq_getElem lt
  generalize s.slots[i] = content at held
  rw [seat, Gen.ends_bind, Gen.ends_star found, Gen.ends_bind, Gen.ends_changeMain, Gen.ends_bind,
    Gen.force, Gen.ends_bind, Gen.ends_scene, Gen.ends_bind]
  have found' : ({ run.scene with main := { run.scene.main with position := i } } :
      Atlas).star? id = some s := found
  rw [Gen.ends_ofExcept (Atlas.force_main found' regular.capacity held), Gen.ends_bind,
    Gen.ends_change, Gen.ends_pure, Gen.ends_bind, Gen.ends_main]
  have survey : ∀ journal, (surveyMain s.star).Ends
      ⟨run.dice, journal, { run.scene.setStar id { s with slots := s.slots.set i .main } with
        main := { run.scene.main with position := i, orbit := i } }⟩ fun _ after =>
        run.scene.Seating σ id i .slot after.scene := by
    intro journal
    refine Gen.Ends.mono (ends_surveyMain regular.classified charted) fun _ after hafter => ?_
    obtain ⟨astro, surveyed, hscene⟩ := hafter
    rw [hscene]
    exact .inSlot found held surveyed
  split
  · rw [Gen.ends_bind, Gen.ends_diagnose]
    exact survey _
  · exact survey _

/-- Seating the main world in any slot of a star that has one.

**Proof sketch.** If all slots are decided, any number below the capacity is rolled, which is that
of a slot; otherwise one of the undecided orbits is. -/
lemma ends_seatAnywhere (charted : run.scene.main.profile.InRange least)
    (found : run.scene.star? id = some s) (regular : s.Regular) (some : 0 < s.slots.length) :
    (seatAnywhere id : Gen σ Atlas Unit).Ends run fun _ after =>
      ∃ i, run.scene.Seating σ id i .slot after.scene := by
  have seated : ∀ (dice : Dice σ) (i : Nat), i < s.slots.length →
      (seat id i : Gen σ Atlas Unit).Ends ⟨dice, run.journal, run.scene⟩ fun _ after =>
        ∃ i, run.scene.Seating σ id i .slot after.scene := fun dice i lt =>
    Gen.Ends.mono (ends_seat charted found regular lt) fun _ _ h => ⟨i, h⟩
  rw [seatAnywhere, Gen.ends_bind, Gen.ends_star found]
  dsimp only
  split
  · rw [Gen.ends_bind]
    have capacity := regular.capacity
    refine Gen.ends_roll (Roll.gives_below (by omega)) fun orbit dice ⟨nonneg, lt⟩ => ?_
    obtain ⟨i, rfl⟩ := Int.eq_ofNat_of_zero_le nonneg
    exact seated dice i (by omega)
  · rename_i left
    rw [Gen.ends_bind]
    refine Gen.ends_roll (Roll.gives_choice (by simpa using left)) fun orbit dice hmem => ?_
    obtain ⟨i, rfl, free⟩ := StarSystem.mem_undecidedOrbits.mp hmem
    exact seated dice i (List.getElem?_eq_some_iff.mp free).1

/-- Making the main world a moon of the gas giant in a slot. -/
lemma ends_seatAsMoon {i : Nat} {g : GasGiant} (charted : run.scene.main.profile.InRange least)
    (found : run.scene.star? id = some s) (regular : s.Regular)
    (held : s.slots[i]? = some (.giant g)) (limit : Int) :
    (seatAsMoon id i g limit : Gen σ Atlas Unit).Ends run fun _ after =>
      run.scene.Seating σ id i .moon after.scene := by
  rw [seatAsMoon, Gen.ends_bind, Gen.ends_star found, Gen.ends_bind, Gen.ends_changeMain,
    Gen.ends_bind, Gen.ends_main, Gen.ends_bind]
  refine (Satellite.ends_findOrbit _ _ _ limit _).mono fun orbit mid ⟨hmid, free, outside⟩ => ?_
  rw [Gen.ends_bind, Gen.ends_changeMain, Gen.ends_bind, Gen.ends_change, Gen.ends_bind, hmid]
  have found' : ({ run.scene with main := { run.scene.main with
      isSatellite := true, orbit := orbit, position := i } } : Atlas).star? id = some s := found
  rw [Atlas.modifyStar_eq found']
  refine Gen.Ends.mono (ends_surveyMain regular.classified charted) fun _ after hafter => ?_
  obtain ⟨astro, surveyed, hscene⟩ := hafter
  rw [Gen.ends_bind, Gen.ends_main, Gen.ends_diagnose, hscene]
  exact .asMoon found held free outside surveyed

/-! ## The search -/

/-- The orbit to aim at around a star, and its warnings.

**Proof sketch.** The two warnings are independent of each other: the first one is recorded where
there is no habitable zone, the second one where the aim lies beyond the orbits. -/
lemma ends_habitableTarget {zones : Zones} {Q : Int → Run σ Atlas → Prop}
    (found : run.scene.star? id = some s) (zoned : s.star.zones = .ok zones) :
    (habitableTarget id : Gen σ Atlas Int).Ends run Q ↔ Q (s.target zones)
      { run with journal := run.journal ++ (s.compromises zones).map .diagnosed } := by
  rw [habitableTarget, Gen.ends_bind, Gen.ends_star found, Gen.ends_bind, Gen.ends_ofExcept zoned]
  have within : ∀ (target : Int) (mid : Run σ Atlas),
      (if s.maxOrbits ≤ target then do
        Gen.diagnose (beyondOrbits s target (s.maxOrbits - 1))
        return s.maxOrbits - 1
      else return target : Gen σ Atlas Int).Ends mid Q ↔ Q (min target (s.maxOrbits - 1))
        { mid with journal := mid.journal ++ (if s.maxOrbits ≤ target then
          [beyondOrbits s target (s.maxOrbits - 1)] else []).map .diagnosed } := by
    intro target mid
    split
    · rw [Gen.ends_bind, Gen.ends_diagnose, Gen.ends_pure, Int.min_eq_right (by omega)]
      rfl
    · rw [Gen.ends_pure, Int.min_eq_left (by omega), List.map_nil, List.append_nil]
  by_cases noZone : zones.habitableOrbit < 0
  · have aim : zones.aim = max zones.inner 0 := if_pos noZone
    rw [if_pos noZone, Gen.ends_bind, Gen.ends_diagnose, Gen.ends_bind, Gen.ends_pure, within,
      StarSystem.target, StarSystem.compromises, if_pos noZone, aim, List.map_append,
      List.append_assoc]
    rfl
  · have aim : zones.aim = zones.habitableOrbit := if_neg noZone
    rw [if_neg noZone, Gen.ends_bind, Gen.ends_pure, within, StarSystem.target,
      StarSystem.compromises, if_neg noZone, aim, List.nil_append]

end Population

/-- The search for a seat from slot `i` of a star: the companions that it goes on to, the slot at
which it ends, the warnings on the way, and the chart after it.  A gas giant takes the main world as
a moon, a companion without orbits sends it to any other slot of the star, and a companion with
orbits is searched in turn. -/
inductive Atlas.Search (σ : Type) [RandomSource σ] : Atlas → StarId → Nat → List StarId → StarId →
    Nat → List Diagnostic → Atlas → Prop
  | slot {a b : Atlas} {id : StarId} {s : StarSystem} {i : Nat} {content : Slot}
      (found : a.star? id = some s) (held : s.slots[i]? = some content)
      (noStar : ∀ companion name star, content ≠ .star companion name star)
      (noGiant : ∀ g, content ≠ .giant g) (seating : a.Seating σ id i .slot b) :
      Search σ a id i [] id i [] b
  | moon {a b : Atlas} {id : StarId} {s : StarSystem} {i : Nat} {g : GasGiant}
      (found : a.star? id = some s) (held : s.slots[i]? = some (.giant g))
      (seating : a.Seating σ id i .moon b) :
      Search σ a id i [] id i [] b
  | barred {a b : Atlas} {id companion : StarId} {s c : StarSystem} {i k : Nat} {name : String}
      {star : Star} (found : a.star? id = some s)
      (held : s.slots[i]? = some (.star companion name star))
      (foundC : a.star? companion = some c) (noOrbits : c.maxOrbits = 0)
      (seating : a.Seating σ id k .slot b) :
      Search σ a id i [] id k [Population.companionWithoutOrbits c i] b
  | into {a b : Atlas} {id companion last : StarId} {s c : StarSystem} {i j k : Nat} {name : String}
      {star : Star} {zones : Zones} {path : List StarId} {warnings : List Diagnostic}
      (found : a.star? id = some s) (held : s.slots[i]? = some (.star companion name star))
      (foundC : a.star? companion = some c) (room : c.maxOrbits ≠ 0)
      (zoned : c.star.zones = .ok zones) (target : c.target zones = j)
      (rest : Search σ (a.assign companion) companion j path last k warnings b) :
      Search σ a id i (companion :: path) last k (c.compromises zones ++ warnings) b

section Searching

variable {σ : Type} [RandomSource σ] {a b : Atlas} {id last : StarId} {s : StarSystem} {i k : Nat}
  {path : List StarId} {warnings : List Diagnostic} {least : Int} {run : Run σ Atlas}

namespace Atlas

/-- A search goes down from star to companion. -/
lemma Search.descends (h : a.Search σ id i path last k warnings b) : a.Descends id path last := by
  induction h with
  | slot => exact .here
  | moon => exact .here
  | barred => exact .here
  | into found held foundC room zoned target rest ih => exact .into found held ih.of_assign

/-- A search ends with a seat, after the main world was assigned to the companions on the way. -/
lemma Search.exists_seating (h : a.Search σ id i path last k warnings b) :
    ∃ berth, (a.assigned path).Seating σ last k berth b := by
  induction h with
  | slot found held noStar noGiant seating => exact ⟨.slot, seating⟩
  | moon found held seating => exact ⟨.moon, seating⟩
  | barred found held foundC noOrbits seating => exact ⟨.slot, seating⟩
  | into found held foundC room zoned target rest ih => exact ih

end Atlas

namespace Population

/-- The search ends with a seat, and its warnings are recorded.

**Proof sketch.** By induction on the fuel, which bounds how deep companions are nested.  In a slot
with a companion that has orbits, the search goes on around the companion with one level less to
go; in any other case the main world is seated around the star itself. -/
theorem ends_descend {fuel : Nat} (limit : Int)
    (charted : run.scene.main.profile.InRange least) (nests : run.scene.Nests fuel id)
    (found : run.scene.star? id = some s) (lt : i < s.slots.length) :
    (descend limit fuel id i : Gen σ Atlas Unit).Ends run fun _ after =>
      ∃ path last k warnings, run.scene.Search σ id i path last k warnings after.scene ∧
        after.journal.zoneWarnings = run.journal.zoneWarnings ++ warnings := by
  induction fuel generalizing id s run i with
  | zero => cases nests
  | succ fuel ih =>
    cases nests with
    | intro found' regular inner =>
    obtain rfl := Option.eq_some_unique found found'
    have held : s.slots[i]? = some s.slots[i] := List.getElem?_eq_getElem lt
    generalize s.slots[i] = content at held
    have seated (noStar : ∀ companion name star, content ≠ .star companion name star)
        (noGiant : ∀ g, content ≠ .giant g) :
        (seat id i : Gen σ Atlas Unit).Ends run fun _ after =>
          ∃ path last k warnings, run.scene.Search σ id i path last k warnings after.scene ∧
            after.journal.zoneWarnings = run.journal.zoneWarnings ++ warnings := by
      refine ((ends_seat charted found regular lt).within (within_seat id i)).mono ?_
      rintro _ after ⟨seating, adds, -⟩
      refine ⟨[], id, i, [], .slot found held noStar noGiant seating, ?_⟩
      rw [adds.zoneWarnings_eq (by decide), List.append_nil]
    rw [descend, Gen.ends_bind, Gen.ends_star found, Gen.ends_bind,
      Gen.ends_ofExcept (StarSystem.slot_eq regular held)]
    cases content with
    | star companion name star =>
      have nests := inner held
      obtain ⟨c, foundC, regularC⟩ := nests.exists_star
      have capacity := regularC.capacity
      dsimp only
      rw [Gen.ends_bind, Gen.ends_star foundC]
      split
      · rename_i noOrbits
        rw [Gen.ends_bind, Gen.ends_diagnose]
        refine Gen.Ends.mono (Gen.Ends.within (ends_seatAnywhere charted found regular (by omega))
          (within_seatAnywhere id)) ?_
        rintro _ after ⟨⟨k, seating⟩, adds, -⟩
        refine ⟨[], id, k, _, .barred found held foundC noOrbits seating, ?_⟩
        rw [adds.zoneWarnings_eq (by decide), Journal.zoneWarnings_append]
        rfl
      · rename_i room
        obtain ⟨zones, zoned⟩ := regularC.classified.exists_zones
        rw [Gen.ends_bind, Gen.ends_main, Gen.ends_bind, Gen.ends_diagnose, Gen.ends_bind,
          ends_assign, Gen.ends_bind]
        have foundC' := Atlas.star?_assign_self foundC
        refine Iff.mpr (ends_habitableTarget foundC' zoned) ?_
        obtain ⟨j, target, ltJ⟩ := regularC.exists_target (by omega) zones
        have target' : StarSystem.target { c with hasMain := true } zones = j := target
        rw [target']
        refine Gen.Ends.mono (ih charted (nests.assign companion) foundC' ltJ) ?_
        rintro _ after ⟨path, last, k, warnings, search, recorded⟩
        refine ⟨companion :: path, last, k, c.compromises zones ++ warnings,
          .into found held foundC room zoned target search, ?_⟩
        rw [recorded, Journal.zoneWarnings_append, Journal.zoneWarnings_append,
          Journal.zoneWarnings_diagnosed StarSystem.warns_of_mem_compromises, List.append_assoc,
          List.append_assoc]
        rfl
    | giant g =>
      refine ((ends_seatAsMoon charted found regular held limit).within
        (within_seatAsMoon id i g limit)).mono ?_
      rintro _ after ⟨seating, adds, -⟩
      refine ⟨[], id, i, [], .moon found held seating, ?_⟩
      rw [adds.zoneWarnings_eq (by decide), List.append_nil]
    | undecided => exact seated nofun nofun
    | empty => exact seated nofun nofun
    | world => exact seated nofun nofun
    | main => exact seated nofun nofun

/-- The chart on which the search for a seat starts: the star has entered the phase of the main
world, which is marked as such. -/
def readied (a : Atlas) (id : StarId) (s : StarSystem) : Atlas :=
  { a.setStar id { s with phase := some .mainWorld } with main := { a.main with isMain := true } }

end Population

/-- The main world placed around star `s`, on any slot or, if it needs one, in the habitable zone;
with the companions to which the search went on, the slot at which it ended, and the warnings. -/
inductive Atlas.Placement (σ : Type) [RandomSource σ] (a : Atlas) (id : StarId) (s : StarSystem) :
    List StarId → StarId → Nat → List Diagnostic → Atlas → Prop
  | anywhere {b : Atlas} {k : Nat} (undemanding : a.main.profile.needsHabitable = false)
      (seating : ((Population.readied a id s).assign id).Seating σ id k .slot b) :
      Placement σ a id s [] id k [] b
  | habitable {b : Atlas} {zones : Zones} {i k : Nat} {path : List StarId} {last : StarId}
      {warnings : List Diagnostic} (needs : a.main.profile.needsHabitable = true)
      (zoned : s.star.zones = .ok zones) (target : s.target zones = i)
      (search : ((Population.readied a id s).assign id).Search σ id i path last k warnings b) :
      Placement σ a id s path last k (s.compromises zones ++ warnings) b

namespace Atlas.Placement

/-- The way to the place goes down from star to companion. -/
lemma descends (h : a.Placement σ id s path last k warnings b) :
    (Population.readied a id s).Descends id path last := by
  cases h with
  | anywhere undemanding seating => exact .here
  | habitable needs zoned target search => exact search.descends.of_assign

/-- The main world is seated at the end of the way and assigned to every star on it. -/
lemma exists_seating (h : a.Placement σ id s path last k warnings b) :
    ∃ berth, ((Population.readied a id s).assigned (id :: path)).Seating σ last k berth b := by
  cases h with
  | anywhere undemanding seating => exact ⟨.slot, seating⟩
  | habitable needs zoned target search => exact search.exists_seating

end Atlas.Placement

namespace Population

/-- Seating the main world around a star with orbits ends with its placement, and the warnings are
recorded.

**Proof sketch.** The phase may be entered, so what remains is done on the chart where the main
world is marked and assigned to the star. If it belongs into the habitable zone, the orbit to aim at
is in range, and the search from there ends with a seat; the compromises on the zone come first
among the warnings, those of the search follow. If not, it is seated on any orbit, which records no
such warning. -/
theorem ends_placeMain (limit : Int) (charted : run.scene.main.profile.InRange least)
    (found : run.scene.star? id = some s) (may : Phase.mainWorld.mayFollow s.phase = true)
    (nests : (readied run.scene id s).Nests run.scene.stars.length id)
    (some : 0 < s.slots.length) :
    (placeMain id limit : Gen σ Atlas Unit).Ends run fun _ after =>
      ∃ path last k warnings, run.scene.Placement σ id s path last k warnings after.scene ∧
        after.journal.zoneWarnings = run.journal.zoneWarnings ++ warnings := by
  have foundS : (readied run.scene id s).star? id =
      Option.some { s with phase := Option.some .mainWorld } :=
    Atlas.star?_setStar_self found _
  have foundR := Atlas.star?_assign_self foundS
  have regular : s.Regular := by
    obtain ⟨r, foundR', regular⟩ := nests.exists_star
    obtain rfl := Option.eq_some_unique foundS foundR'
    exact ⟨regular.classified, regular.capacity, regular.countable⟩
  rw [placeMain, Gen.ends_bind, Gen.ends_onStar found, ends_enter may, Gen.ends_bind,
    Gen.ends_changeMain, Gen.ends_bind, ends_assign, Gen.ends_bind, Gen.ends_main]
  split
  · rename_i needs
    obtain ⟨zones, zoned⟩ := regular.classified.exists_zones
    rw [Gen.ends_bind]
    refine Iff.mpr (ends_habitableTarget foundR zoned) ?_
    obtain ⟨i, target, lt⟩ := regular.exists_target some zones
    have target' : StarSystem.target { s with
        phase := Option.some .mainWorld, hasMain := true } zones = i := target
    rw [target', Gen.ends_bind, Gen.ends_scene]
    have stars : ((readied run.scene id s).assign id).stars.length = run.scene.stars.length := by
      simp [Atlas.assign, Atlas.modifyStar, readied]
    have nests' : ((readied run.scene id s).assign id).Nests
        ((readied run.scene id s).assign id).stars.length id := stars ▸ nests.assign id
    refine Gen.Ends.mono (ends_descend limit charted nests' foundR lt) ?_
    rintro _ after ⟨path, last, k, warnings, search, recorded⟩
    refine ⟨path, last, k, s.compromises zones ++ warnings,
      .habitable needs zoned target search, ?_⟩
    rw [recorded, Journal.zoneWarnings_append,
      Journal.zoneWarnings_diagnosed StarSystem.warns_of_mem_compromises, List.append_assoc]
    rfl
  · rename_i undemanding
    refine Gen.Ends.mono (Gen.Ends.within (ends_seatAnywhere charted foundR
      ⟨regular.classified, regular.capacity, regular.countable⟩ some) (within_seatAnywhere id)) ?_
    rintro _ after ⟨⟨k, seating⟩, adds, -⟩
    refine ⟨[], id, k, [], .anywhere (Bool.eq_false_iff.mpr undemanding) seating, ?_⟩
    rw [adds.zoneWarnings_eq (by decide), List.append_nil]

end Population

end Searching

end Starchart
