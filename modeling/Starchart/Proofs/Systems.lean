import Mathlib.Algebra.GroupWithZero.Nat
import Starchart.Proofs.Generation
import Starchart.Random.Congruential

/-!
# Generated systems

What holds of every system that the generator makes, whatever the source of random numbers answers and
however long satellites look for an orbit.  There always is a system and a listing of it; its slots
agree with the bodies in them; and the main world is in it exactly once.

## Main definitions

* `Starchart.World.Accepted` — main worlds that the generator is made for.
* `Starchart.Atlas.storedOrbit?` — the orbit that the content of a slot carries.
* `Starchart.StarSystem.Consistent` — stars whose slots agree with what is in them.
* `Starchart.Slot.Holds` — the worlds of a slot, with all satellites.
* `Starchart.Tree.mains` — how often the main world occurs in a tree.

## Main results

* `Starchart.Generator.generate_total` — generating and listing a system never fails.
* `Starchart.Generator.walk_consistent` — all stars of a system are consistent.
* `Starchart.Generator.mains_tree` — the main world occurs once in the tree of a system.
-/

set_option autoImplicit false

namespace Starchart

/-- A main world as the generator takes it: its digits were read from a profile text, in the way of
satellites only if it is one, and it has no satellites yet. -/
structure World.Accepted (w : World) : Prop where
  read : ∃ text satellite, Profile.read text satellite = .ok w.profile ∧
    (satellite = true → w.isSatellite = true)
  bare : w.satellites = []

/-- The digits of an accepted main world are in range. -/
lemma World.Accepted.inRange {w : World} (h : w.Accepted) :
    w.profile.InRange (leastSize w.isSatellite) := by
  obtain ⟨text, satellite, read, flagged⟩ := h.read
  have inRange := Profile.inRange_of_read read
  cases satellite with
  | true => rwa [flagged rfl]
  | false =>
    have least : leastSize w.isSatellite ≤ leastSize false := by
      cases w.isSatellite <;> decide
    exact inRange.mono least

/-- A populous, well-watered main world. -/
def World.regina : World :=
  { name := "Regina"
    profile := {
      port := .A, size := 7, atmosphere := 8, hydro := 8, population := 8, government := 9
      law := 9, tech := 10 } }

/-- The digits of that world are those of its profile text. -/
lemma World.accepted_regina : World.regina.Accepted where
  read := ⟨['A', '7', '8', '8', '8', '9', '9', '-', 'A'], false, by decide, nofun⟩
  bare := rfl

namespace Generator

variable {σ : Type} [RandomSource σ] [Inexhaustible σ] {main : World}

/-- With a source that never runs dry, generating a system for an accepted main world builds a chart
of stars and populates it. -/
lemma exists_course (accepted : main.Accepted) (limit seed : Int) (dice : Dice σ)
    (journal : Journal) : ∃ run a last k warnings,
      generate limit seed ⟨dice, journal, ⟨[], main⟩⟩ = .ok 0 run ∧
        Constellation.Built (prepare main) a ∧ a.Course σ limit last k warnings run.scene := by
  obtain ⟨_, run, ran, rfl, a, last, k, warnings, built, course, -⟩ :=
    (ends_generate (σ := σ) accepted.inRange accepted.bare limit seed dice journal).exists_ok
  exact ⟨run, a, last, k, warnings, ran, built, course⟩

/-- It ends with a chart on which everything stands where it should. -/
lemma exists_generated (accepted : main.Accepted) (limit seed : Int) (dice : Dice σ)
    (journal : Journal) : ∃ run last k, generate limit seed ⟨dice, journal, ⟨[], main⟩⟩ =
      .ok 0 run ∧ Generated σ main last k run.scene := by
  obtain ⟨run, a, last, k, warnings, ran, built, course⟩ :=
    exists_course accepted limit seed dice journal
  exact ⟨run, last, k, ran, generated_of_course accepted.inRange built course⟩

/-! ## Totality -/

/-- **Generation is total.**  For every accepted main world, every source of random numbers that
never runs dry and every number of tries for the orbits of satellites, generating a system does not
fail: no slot is refused, no phase entered out of order, no star or world left out of a table, and
nothing is ever rolled among no possibilities.  No star has more than twenty orbits, for which there
are numerals.  The listing of the system does not fail either.

**Proof sketch.** Each step of the run has a description by what holds after it, and none of these
admits a fault other than that the source has run dry.  The chart that results has its stars in one
tree, and every world on it has a profile text. -/
theorem generate_total (accepted : main.Accepted) (limit seed : Int) (dice : Dice σ)
    (journal : Journal) : ∃ primary run,
      generate limit seed ⟨dice, journal, ⟨[], main⟩⟩ = .ok primary run ∧
        (∀ s ∈ run.scene.stars, s.slots.length ≤ 20) ∧
        ∀ showEmpty diagnostics, ∃ report,
          Report.full run.scene showEmpty primary diagnostics = .ok report := by
  obtain ⟨run, last, k, ran, generated⟩ := exists_generated accepted limit seed dice journal
  have sound := generated.sound
  refine ⟨0, run, ran, fun s hs => ?_, fun showEmpty diagnostics => ?_⟩
  · obtain ⟨id, found⟩ := List.getElem?_of_mem hs
    exact (sound.stars found).few
  · refine Report.exists_full generated.spans (fun s hs content hcontent w hw => ?_) showEmpty
      diagnostics
    exact sound.writable hs hcontent hw

/-- The system of a main world of its kind can be generated and listed. -/
theorem generate_total_regina : World.regina.Accepted ∧ ∃ primary run,
    generate 10 1 (⟨⟨(⟨1⟩ : Congruential), []⟩, [], ⟨[], .regina⟩⟩ : Run Congruential Atlas) =
      .ok primary run ∧ (∀ s ∈ run.scene.stars, s.slots.length ≤ 20) ∧
      ∀ showEmpty diagnostics, ∃ report,
        Report.full run.scene showEmpty primary diagnostics = .ok report :=
  ⟨World.accepted_regina, generate_total World.accepted_regina 10 1 _ _⟩

end Generator

/-! ## Slots -/

/-- The orbit that the content of a slot carries itself, if anything was decided about the slot.
Bodies of their own and orbits that stay empty carry it, and so do the main world and companion
stars, which the chart keeps elsewhere. -/
def Atlas.storedOrbit? (a : Atlas) : Slot → Option Int
  | .undecided => none
  | .empty orbit => some orbit
  | .world w => some w.orbit
  | .giant g => some g.orbit
  | .main => some a.main.orbit
  | .star id _ _ => (a.star? id).map fun s => s.orbit

/-- A star of a chart whose slots agree with its capacity and with what is in them: every body in a
slot carries the number of the slot, and every star in a slot is one of the companions.  About a
contact companion nothing was decided, about every other star everything. -/
structure StarSystem.Consistent (a : Atlas) (s : StarSystem) : Prop where
  capacity : (s.slots.length : Int) = s.maxOrbits
  stored : ∀ (i : Nat) (content : Slot), s.slots[i]? = some content → content ≠ .undecided →
    a.storedOrbit? content = some (i : Int)
  own : ∀ (id : StarId) (name : String) (star : Star), .star id name star ∈ s.slots →
    id ∈ s.companions
  contact : s.isContact = true → (∀ content ∈ s.slots, content = .undecided) ∧ s.phase = none
  decided : s.isContact = false → .undecided ∉ s.slots ∧ s.phase = some .companions

/-- What stands in a slot carries the number of the slot.

**Proof sketch.** By cases on the content. A world or gas giant was placed with the number of its
orbit and keeps it when it is settled; the main world and stars are stamped with it on the chart. -/
lemma Slot.Stands.storedOrbit {σ : Type} [RandomSource σ] {a : Atlas} {s : StarSystem} {i : Nat}
    {content : Slot} (h : content.Stands σ a s i) (sound : s.Sound) (lt : i < s.slots.length)
    (decided : content ≠ .undecided) : a.storedOrbit? content = some (i : Int) := by
  cases content with
  | undecided => exact absurd rfl decided
  | empty orbit =>
    cases h
    rfl
  | world w =>
    obtain ⟨raw, -, founded, orbit, -⟩ := h.exists_raw sound lt
    have : w.bare.orbit = i := by
      rw [founded.frame]
      exact orbit
    exact congrArg some this
  | giant g => exact congrArg some (h.giant_orbit sound lt)
  | main =>
    cases h with
    | main orbit position moons => exact congrArg some orbit
  | star id name star =>
    cases h with
    | star own found orbit outside =>
      rw [Atlas.storedOrbit?, found, Option.map_some, orbit]

namespace Generator

variable {σ : Type} [RandomSource σ] {main : World}

/-- The stars of a generated chart are consistent.

**Proof sketch.** What stands in a slot tells its number and, for a companion, the link. A star that
is contact went through no phase and has nothing but undecided slots; any other one is finished,
with nothing left undecided. -/
lemma Generated.consistent {a : Atlas} {last : StarId} {k : Nat} (h : Generated σ main last k a)
    {s : StarSystem} (hs : s ∈ a.stars) : s.Consistent a := by
  obtain ⟨id, found⟩ := List.getElem?_of_mem hs
  have sound := h.sound.stars found
  obtain ⟨-, outcome⟩ := h.star found
  exact {
    capacity := sound.capacity.symm
    stored := fun i content held decided =>
      (h.sound.slots found held).storedOrbit sound (List.getElem?_eq_some_iff.mp held).1 decided
    own := fun other name star mem => by
      obtain ⟨i, held⟩ := List.getElem?_of_mem mem
      cases h.sound.slots found held with
      | star own found orbit outside => exact own
    contact := fun contact => by
      rcases outcome with ⟨-, phase, undecided⟩ | ⟨outside, -⟩
      · refine ⟨fun content mem => ?_, phase⟩
        obtain ⟨i, held⟩ := List.getElem?_of_mem mem
        exact undecided held
      · exact absurd (beq_iff_eq.mp contact) outside
    decided := fun outside => by
      rcases outcome with ⟨contact, -⟩ | ⟨-, finished⟩
      · rw [StarSystem.isContact, contact] at outside
        cases outside
      · refine ⟨fun mem => ?_, finished.phase⟩
        obtain ⟨i, held⟩ := List.getElem?_of_mem mem
        exact finished.decided i held }

variable [Inexhaustible σ]

/-- **Slots agree with bodies.**  The stars of a generated system form a tree, and every star of it
is consistent: there are as many slots as its capacity says, what is in a slot carries the number of
that slot, a star in a slot is a companion of the star itself, and either all slots are decided
after the last phase, or the star is a contact companion that no phase has touched.

**Proof sketch.** What stands in a slot was put there with its number and is never moved.
Populating a star goes through all phases and leaves nothing undecided, and it visits every star but
contact companions. -/
theorem walk_consistent (accepted : main.Accepted) (limit seed : Int) (dice : Dice σ)
    (journal : Journal) : ∃ primary run t,
      generate limit seed ⟨dice, journal, ⟨[], main⟩⟩ = .ok primary run ∧
        run.scene.tree primary = .ok t ∧ ∀ s ∈ t.walk, s.Consistent run.scene := by
  obtain ⟨run, last, k, ran, generated⟩ := exists_generated accepted limit seed dice journal
  obtain ⟨t, tree, walk⟩ := Atlas.exists_tree generated.spans
  exact ⟨0, run, t, ran, tree, fun s hs => generated.consistent (walk ▸ hs)⟩

/-- The stars in the system of a main world of its kind are consistent. -/
theorem walk_consistent_regina : World.regina.Accepted ∧ ∃ primary run t,
    generate 10 1 (⟨⟨(⟨1⟩ : Congruential), []⟩, [], ⟨[], .regina⟩⟩ : Run Congruential Atlas) =
      .ok primary run ∧ run.scene.tree primary = .ok t ∧
        ∀ s ∈ t.walk, s.Consistent run.scene :=
  ⟨World.accepted_regina, walk_consistent World.accepted_regina 10 1 _ _⟩

end Generator

/-! ## The main world -/

/-- The worlds of a slot: the one that stands there, the satellites of the body there, and theirs in
turn. -/
inductive Slot.Holds (main : World) : Slot → Moon World → Prop
  | world {w : World} : Holds main (.world w) (.own w)
  | main : Holds main .main .main
  | giant {g : GasGiant} {m : Moon World} (mem : m ∈ g.satellites) : Holds main (.giant g) m
  | satellite {content : Slot} {host m : Moon World} (held : Holds main content host)
      (mem : m ∈ (host.body main).satellites) : Holds main content m

/-- How often the main world occurs in a tree, in slots and among the satellites of their bodies. -/
def Tree.mains (main : World) (t : Tree) : Nat :=
  (t.walk.map fun s => (s.slots.map (Slot.mains main)).sum).sum

/-- A sum with a single term that is not zero.

**Proof sketch.** By induction on the list. The term that is not zero is the first one, and then all
others are zero, or it is among the rest. -/
lemma sum_map_eq {α : Type} {f : α → Nat} {xs : List α} {k n : Nat} (lt : k < xs.length)
    (h : ∀ i x, xs[i]? = some x → f x = if k = i then n else 0) : (xs.map f).sum = n := by
  induction xs generalizing k with
  | nil => cases lt
  | cons x xs ih =>
    have first := h 0 x rfl
    rw [List.map_cons, List.sum_cons, first]
    cases k with
    | zero =>
      have rest : (xs.map f).sum = 0 := by
        refine List.sum_eq_zero_iff_forall_eq_nat.mpr fun y hy => ?_
        obtain ⟨z, hz, rfl⟩ := List.mem_map.mp hy
        obtain ⟨i, held⟩ := List.getElem?_of_mem hz
        exact (h (i + 1) z held).trans (if_neg (Nat.succ_ne_zero i).symm)
      rw [rest, if_pos rfl, Nat.add_zero]
    | succ k =>
      rw [if_neg (Nat.succ_ne_zero k), Nat.zero_add]
      refine ih (Nat.lt_of_succ_lt_succ lt) fun i y held => ?_
      simpa using h (i + 1) y held

namespace Atlas.Sound

variable {σ : Type} [RandomSource σ] {a : Atlas} {seat : Option (StarId × Nat)} {id : StarId}
  {s : StarSystem} {i : Nat} {content : Slot} {host : Host} {m : Moon World} {w : World}

/-- The main world as a moon has no satellites.

**Proof sketch.** If it had any, it would stand in a slot.  Since it occurs once only, that is the
slot whose body it orbits, and it would be its own moon. -/
lemma main_bare (sound : a.Sound σ seat) (bare : a.BareAsMoon) (found : a.star? id = some s)
    (held : s.slots[i]? = some content) (hosted : content.host? a.main = some host)
    (mem : .main ∈ host.satellites) : a.main.satellites = [] := by
  rcases bare with none | ⟨id', s', i', found', held'⟩
  · exact none
  · have orbits : 0 < host.satellites.countP Moon.isMain := List.countP_pos_iff.mpr ⟨_, mem, rfl⟩
    have occurs := Nat.lt_of_lt_of_le orbits (Slot.countP_isMain_le_mains hosted)
    obtain ⟨rfl, rfl⟩ := sound.seat_unique found held occurs found' held' (Slot.mains_main_pos _)
    obtain rfl := Option.eq_some_unique found found'
    obtain rfl := Option.eq_some_unique held held'
    injection hosted with hosted
    subst hosted
    have once := sound.mains found held
    simp only [Slot.mains, Host.satellites] at once orbits
    split at once <;> omega

/-- The satellites of a body in a slot fit there and have none of their own. -/
lemma moon_fits (sound : a.Sound σ seat) (bare : a.BareAsMoon) (found : a.star? id = some s)
    (held : s.slots[i]? = some content) (hosted : content.host? a.main = some host)
    (mem : m ∈ host.satellites) :
    m.Fits σ a.main s.star i ∧ (m.body a.main).satellites = [] := by
  have fits := (sound.slots found held).fits hosted m mem
  refine ⟨fits, ?_⟩
  cases m with
  | own w => exact fits.satellites_eq (sound.stars found).classified
  | main => exact sound.main_bare bare found held hosted mem

/-- A world of a slot stands there itself, or it is a satellite that fits there and has no
satellites of its own. -/
lemma holds_cases (sound : a.Sound σ seat) (bare : a.BareAsMoon) (found : a.star? id = some s)
    (held : s.slots[i]? = some content) (h : content.Holds a.main m) :
    (∃ w, m = .own w ∧ content = .world w) ∨ (m = .main ∧ content = .main) ∨
      m.Fits σ a.main s.star i ∧ (m.body a.main).satellites = [] := by
  induction h with
  | world => exact .inl ⟨_, rfl, rfl⟩
  | main => exact .inr (.inl ⟨rfl, rfl⟩)
  | giant mem => exact .inr (.inr (sound.moon_fits bare found held rfl mem))
  | satellite _ mem ih =>
    rcases ih held with ⟨w, rfl, rfl⟩ | ⟨rfl, rfl⟩ | ⟨-, none⟩
    · exact .inr (.inr (sound.moon_fits bare found held rfl mem))
    · exact .inr (.inr (sound.moon_fits bare found held rfl mem))
    · rw [none] at mem
      cases mem

/-- A world of a slot, other than the main world, stands there itself or is a satellite that fits
there. -/
lemma own_cases (sound : a.Sound σ seat) (bare : a.BareAsMoon) (found : a.star? id = some s)
    (held : s.slots[i]? = some content) (h : content.Holds a.main (.own w)) :
    content = .world w ∨ (Moon.own w).Fits σ a.main s.star i := by
  rcases sound.holds_cases bare found held h with ⟨v, same, here⟩ | ⟨same, -⟩ | ⟨fits, -⟩
  · injection same with same
    exact .inl (same ▸ here)
  · cases same
  · exact .inr fits

/-- The worlds apart from the main world do not count as such. -/
lemma isMain_eq_false (sound : a.Sound σ seat) (bare : a.BareAsMoon)
    (found : a.star? id = some s) (held : s.slots[i]? = some content)
    (h : content.Holds a.main (.own w)) : w.isMain = false := by
  have ofStar := sound.stars found
  rcases sound.own_cases bare found held h with rfl | fits
  · obtain ⟨raw, isRaw, founded, -⟩ := (sound.slots found held).exists_raw ofStar
      (List.getElem?_eq_some_iff.mp held).1
    have : w.bare.isMain = false := by
      rw [founded.frame]
      exact isRaw.isMain
    exact this
  · rcases fits.own_cases ofStar.classified with ⟨_, rfl⟩ | ⟨raw, isRaw, founded, -⟩
    · rfl
    · rw [founded.frame]
      exact isRaw.isMain

end Atlas.Sound

namespace Generator

variable {σ : Type} [RandomSource σ] {main : World}

namespace Generated

variable {a : Atlas} {last : StarId} {k : Nat} {s : StarSystem}

/-- The main world occurs once on a generated chart. -/
lemma sum_mains (h : Generated σ main last k a) :
    (a.stars.map fun s => (s.slots.map (Slot.mains a.main)).sum).sum = 1 := by
  obtain ⟨s, found, room, -⟩ := h.seat
  refine sum_map_eq (Atlas.lt_length found) fun id t (known : a.star? id = some t) => ?_
  split
  · rename_i same
    subst same
    obtain rfl := Option.eq_some_unique found known
    refine sum_map_eq room fun i content held => ?_
    rw [h.sound.mains known held]
    simp
  · rename_i other
    refine List.sum_eq_zero_iff_forall_eq_nat.mpr fun n hn => ?_
    obtain ⟨content, mem, rfl⟩ := List.mem_map.mp hn
    obtain ⟨i, held⟩ := List.getElem?_of_mem mem
    rw [h.sound.mains known held]
    simp [other]

/-- A companion of a generated chart has the main world assigned to it exactly if that stands in one
of its slots. -/
lemma hasMain_iff (h : Generated σ main last k a) {id : StarId} (found : a.star? id = some s)
    (companion : id ≠ 0) : s.hasMain = true ↔ .main ∈ s.slots := by
  rw [(h.star found).1, decide_eq_true_iff]
  constructor
  · rintro (zero | rfl)
    · exact absurd zero companion
    · obtain ⟨t, foundT, -, away⟩ := h.seat
      obtain rfl := Option.eq_some_unique found foundT
      exact List.mem_of_getElem? (away companion).2
  · intro mem
    obtain ⟨i, held⟩ := List.getElem?_of_mem mem
    -- the main world occurs in its slot, which is therefore the seat
    have seated := h.sound.seat_eq found held (Slot.mains_main_pos _)
    injection seated with seated
    injection seated with here
    exact .inr here.symm

end Generated

variable [Inexhaustible σ]

/-- **The main world is seated once.**  In the tree of a generated system the main world occurs
exactly once, in a slot or among the satellites of a body in a slot, and no other world counts as a
main world. It is assigned to the root of the tree, and to a companion star exactly if it stands in
one of the companion's own slots.

**Proof sketch.** The chart has the main world nowhere until it is seated, and no later step adds it
to a slot or takes it away; in particular it never counts as a ring that may be merged with others.
It is assigned to the stars on the way to its seat, which are the root and the star of the seat. -/
theorem mains_tree (accepted : main.Accepted) (limit seed : Int) (dice : Dice σ)
    (journal : Journal) : ∃ primary run t root companions,
      generate limit seed ⟨dice, journal, ⟨[], main⟩⟩ = .ok primary run ∧
        run.scene.tree primary = .ok t ∧ t.walk = root :: companions ∧
        t.mains run.scene.main = 1 ∧
        (∀ s ∈ t.walk, ∀ content ∈ s.slots, ∀ w, content.Holds run.scene.main (.own w) →
          w.isMain = false) ∧
        root.hasMain = true ∧
        ∀ s ∈ companions, s.hasMain = true ↔ .main ∈ s.slots := by
  obtain ⟨run, last, k, ran, generated⟩ := exists_generated accepted limit seed dice journal
  obtain ⟨t, tree, walk⟩ := Atlas.exists_tree generated.spans
  obtain ⟨root, companions, stars⟩ : ∃ root companions, run.scene.stars = root :: companions := by
    obtain ⟨s, found, -⟩ := generated.seat
    exact List.exists_cons_of_length_pos (Nat.zero_lt_of_lt (Atlas.lt_length found))
  refine ⟨0, run, t, root, companions, ran, tree, walk.trans stars, ?_, ?_, ?_, ?_⟩
  · rw [Tree.mains, walk]
    exact generated.sum_mains
  · intro s hs content hcontent w hw
    rw [walk] at hs
    obtain ⟨id, found⟩ := List.getElem?_of_mem hs
    obtain ⟨i, held⟩ := List.getElem?_of_mem hcontent
    exact generated.sound.isMain_eq_false generated.bareAsMoon found held hw
  · have found : run.scene.star? 0 = some root := by
      rw [Atlas.star?, stars]
      rfl
    rw [(generated.star found).1]
    simp
  · intro s hs
    obtain ⟨id, held⟩ := List.getElem?_of_mem hs
    have found : run.scene.star? (id + 1) = some s := by
      rw [Atlas.star?, stars]
      exact held
    exact generated.hasMain_iff found (Nat.succ_ne_zero id)

/-- The main world of this kind is seated once in its system. -/
theorem mains_tree_regina : World.regina.Accepted ∧ ∃ primary run t root companions,
    generate 10 1 (⟨⟨(⟨1⟩ : Congruential), []⟩, [], ⟨[], .regina⟩⟩ : Run Congruential Atlas) =
      .ok primary run ∧ run.scene.tree primary = .ok t ∧ t.walk = root :: companions ∧
        t.mains run.scene.main = 1 ∧
        (∀ s ∈ t.walk, ∀ content ∈ s.slots, ∀ w, content.Holds run.scene.main (.own w) →
          w.isMain = false) ∧
        root.hasMain = true ∧
        ∀ s ∈ companions, s.hasMain = true ↔ .main ∈ s.slots :=
  ⟨World.accepted_regina, mains_tree World.accepted_regina 10 1 _ _⟩

end Generator

end Starchart
