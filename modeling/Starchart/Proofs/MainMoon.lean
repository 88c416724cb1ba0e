import Starchart.Proofs.Habitable
import Starchart.Proofs.Occupants

/-!
# The main world as a moon

Where the main world is made the moon of a gas giant it is flagged as a satellite.  Seating it in a slot
leaves the flag alone, so that a main world which comes with the flag carries it there too, and is then
read as a ring where its size is zero.

## Main definitions

* `Starchart.Tree.HasMainInSlot`, `Starchart.Tree.HasMainAsMoon` — where the main world is in a tree.

## Main results

* `Starchart.Generator.isSatellite_iff` — when the main world ends up flagged as a satellite.
* `Starchart.Generator.exists_stale_flag` — a main world in a slot that is flagged.
-/

set_option autoImplicit false

namespace Starchart

/-- The main world stands in a slot of a star. -/
def Tree.HasMainInSlot (t : Tree) : Prop := ∃ s ∈ t.walk, .main ∈ s.slots

/-- A search for the main world in the slots of a tree finds it only where it is. -/
lemma Tree.hasMainInSlot_of_any {t : Tree}
    (held : (t.walk.any fun s => s.slots.any Slot.isMain) = true) : t.HasMainInSlot := by
  obtain ⟨s, hs, held⟩ := List.any_eq_true.mp held
  obtain ⟨content, mem, isMain⟩ := List.any_eq_true.mp held
  cases content with
  | main => exact ⟨s, hs, mem⟩
  | _ => cases isMain

/-- The main world is a satellite of a gas giant in a slot of a star. -/
def Tree.HasMainAsMoon (t : Tree) : Prop :=
  ∃ s ∈ t.walk, ∃ g, .giant g ∈ s.slots ∧ .main ∈ g.satellites

/-- A search for gas giants with the main world finds it only where it is a moon. -/
lemma Tree.hasMainAsMoon_of_any {t : Tree} (main : World) (held : (t.walk.any fun s =>
    s.slots.any fun content => content.isGiant && content.mains main == 1) = true) :
    t.HasMainAsMoon := by
  obtain ⟨s, hs, held⟩ := List.any_eq_true.mp held
  obtain ⟨content, mem, held⟩ := List.any_eq_true.mp held
  obtain ⟨isGiant, once⟩ := Bool.and_eq_true_iff.mp held
  cases content with
  | giant g =>
    have once : g.satellites.countP Moon.isMain = 1 := beq_iff_eq.mp once
    obtain ⟨m, hm, isMain⟩ := List.countP_pos_iff.mp (once ▸ Nat.one_pos)
    cases m with
    | main => exact ⟨s, hs, g, mem, hm⟩
    | own => cases isMain
  | _ => cases isGiant

variable {σ : Type} [RandomSource σ]

namespace Atlas

variable {limit : Int} {a b c e : Atlas} {last : StarId} {k : Nat} {warnings : List Diagnostic}

/-- Where the main world is seated in a slot it keeps its flag, and a moon is flagged. -/
lemma Seating.flag_cases {berth : Berth} (h : a.Seating σ last k berth b) :
    b.slot? last k = some .main ∧ b.main.isSatellite = a.main.isSatellite ∨
      ∃ g, b.slot? last k = some (.giant g) ∧ b.main.isSatellite = true := by
  cases berth with
  | slot =>
    refine .inl ⟨h.slot_eq, ?_⟩
    cases h
    rfl
  | moon =>
    obtain ⟨-, g, -, held, -, flag⟩ := h.exists_giant
    exact .inr ⟨g, held, flag⟩

/-- A gas giant stays in its slot. -/
lemma Reaches.exists_giant {seat : Option (StarId × Nat)} (h : Reaches σ limit a b)
    (start : a.Sound σ seat) {id : StarId} {i : Nat} {g : GasGiant}
    (held : a.slot? id i = some (.giant g)) : ∃ g', b.slot? id i = some (.giant g') := by
  obtain ⟨s, found, held⟩ := exists_star held
  obtain ⟨t, after, -⟩ := h.star start found
  obtain ⟨content, held', becomes⟩ := h.slot start found after held
  rw [slot?_eq after]
  cases becomes with
  | kept => exact ⟨g, held'⟩
  | giant => exact ⟨_, held'⟩

/-- Populating a fresh chart leaves the main world in its slot, with its flag as it was, or as a
moon of the gas giant there, flagged as one.

**Proof sketch.** Seeding leaves the flag alone. In a slot of its own the main world is seated with
the flag that it came with, as a moon it is flagged; and what follows keeps both the flag and the
slot, in which a gas giant may get more satellites and another name. -/
lemma Course.flag_cases (h : a.Course σ limit last k warnings e) (start : a.Sound σ none) :
    e.slot? last k = some .main ∧ e.main.isSatellite = a.main.isSatellite ∨
      (∃ g, e.slot? last k = some (.giant g) ∧ .main ∈ g.satellites) ∧
        e.main.isSatellite = true := by
  obtain @⟨b, c, d, s, path, seeded, -, -, -, placed, arrives, completed, -, below⟩ := h
  have steps : Reaches σ limit c e := completed.reaches.trans below.reaches
  obtain ⟨berth, seating⟩ := placed.exists_seating
  have entry : ((Population.readied b 0 s).assigned (0 :: path)).main.isSatellite =
      a.main.isSatellite := by
    rw [main_assigned]
    exact (congrArg World.isSatellite (seeded.reaches.main_eq start) :)
  have flag := (steps.main_place arrives.sound).1
  rcases seating.flag_cases with ⟨held, kept⟩ | ⟨g, held, flagged⟩
  · obtain ⟨t, found, -⟩ := exists_star held
    obtain ⟨u, after, -⟩ := steps.star arrives.sound found
    refine .inl ⟨?_, flag.trans (kept.trans entry)⟩
    rw [slot?_eq after]
    exact arrives.main_slot steps held after
  · obtain ⟨g', held'⟩ := steps.exists_giant arrives.sound held
    obtain ⟨u, after, heldU⟩ := exists_star held'
    exact .inr ⟨⟨g', held', (steps.sound arrives.sound).main_mem_satellites after heldU⟩,
      flag.trans flagged⟩

/-- Where the main world stands in a slot it is no moon of a gas giant. -/
lemma Sound.not_moon {seat : Option (StarId × Nat)} (sound : a.Sound σ seat) {id id' : StarId}
    {s s' : StarSystem} {i i' : Nat} {g : GasGiant} (found : a.star? id = some s)
    (held : s.slots[i]? = some .main) (found' : a.star? id' = some s')
    (held' : s'.slots[i']? = some (.giant g)) : .main ∉ g.satellites := by
  intro mem
  have moon : 0 < (Slot.giant g).mains a.main := List.countP_pos_iff.mpr ⟨_, mem, rfl⟩
  obtain ⟨rfl, rfl⟩ := sound.seat_unique found held (Slot.mains_main_pos _) found' held' moon
  obtain rfl := Option.eq_some_unique found found'
  cases Option.eq_some_unique held held'

/-- In the tree of a sound chart the main world does not stand in a slot where it is a moon. -/
lemma Sound.not_hasMainAsMoon {seat : Option (StarId × Nat)} (sound : a.Sound σ seat) {t : Tree}
    (walk : t.walk = a.stars) (inSlot : t.HasMainInSlot) : ¬t.HasMainAsMoon := by
  obtain ⟨s, hs, mem⟩ := inSlot
  rintro ⟨s', hs', g, mem', moon⟩
  rw [walk] at hs hs'
  obtain ⟨id, found⟩ := List.getElem?_of_mem hs
  obtain ⟨i, held⟩ := List.getElem?_of_mem mem
  obtain ⟨id', found'⟩ := List.getElem?_of_mem hs'
  obtain ⟨i', held'⟩ := List.getElem?_of_mem mem'
  exact sound.not_moon found held found' held' moon

/-- In the tree of a populated chart the main world is in one kind of place alone, and it is flagged
if it is a moon or was flagged before.

**Proof sketch.** By how the flag came about: where the main world was seated in a slot the flag
stayed as it was, and where it became a moon it was set. It is met once only, so that both do not
hold. -/
lemma Course.tree_flag {seat : Option (StarId × Nat)} (h : a.Course σ limit last k warnings e)
    (start : a.Sound σ none) (sound : e.Sound σ seat) {t : Tree} (walk : t.walk = e.stars) :
    (t.HasMainInSlot ↔ ¬t.HasMainAsMoon) ∧
      (e.main.isSatellite = true ↔ t.HasMainAsMoon ∨ a.main.isSatellite = true) := by
  have apart : t.HasMainInSlot → ¬t.HasMainAsMoon := sound.not_hasMainAsMoon walk
  rcases h.flag_cases start with ⟨held, kept⟩ | ⟨⟨g, held, mem⟩, flagged⟩
  · obtain ⟨s, found, held⟩ := exists_star held
    have slot : t.HasMainInSlot :=
      ⟨s, walk ▸ List.mem_of_getElem? found, List.mem_of_getElem? held⟩
    refine ⟨⟨apart, fun _ => slot⟩, ?_⟩
    rw [kept]
    exact ⟨.inr, fun flag => flag.resolve_left (apart slot)⟩
  · obtain ⟨s, found, held⟩ := exists_star held
    have moon : t.HasMainAsMoon :=
      ⟨s, walk ▸ List.mem_of_getElem? found, g, List.mem_of_getElem? held, mem⟩
    exact ⟨⟨apart, fun other => absurd moon other⟩, fun _ => .inl moon, fun _ => flagged⟩

end Atlas

/-! ## Main worlds whose profile cannot be written -/

/-- A main world that is no satellite has a profile text only if its size is a digit. -/
lemma World.size_nonneg_of_profileText {w : World} {text : String} (isMain : w.isMain = true)
    (flag : w.isSatellite = false) (h : w.profileText = .ok text) : 0 ≤ w.profile.size := by
  by_contra negative
  have nonzero : w.profile.size ≠ 0 := by omega
  have size : SizeDigit.write w.profile.size w.name w.isSatellite w.isMain =
      Digit.write w.profile.size := by
    simp [SizeDigit.write, isMain, flag, nonzero]
  have refused : ∃ e, Digit.write w.profile.size = .error e := by
    unfold Digit.write
    rw [if_neg negative]
    exact ⟨_, rfl⟩
  obtain ⟨e, refused⟩ := refused
  simp only [profileText, Profile.write, size, refused, bind, Except.bind, Except.map,
    reduceCtorEq] at h

/-- A small airless main world that comes with the flag of a satellite. -/
def World.flagged : World := { barren with isSatellite := true }

/-- The digits of that world are those of its profile text. -/
lemma World.accepted_flagged : World.flagged.Accepted where
  read := ⟨['X', '1', '0', '0', '0', '0', '0', '-', '0'], false, by decide, nofun⟩
  bare := rfl

namespace Generator

variable {main : World}

/-- A system is generated only if the size of the main world can be written.

**Proof sketch.** Before any phase, the profile text of the main world is written for the log. This
would have failed for a size below zero, as the main world is no satellite. -/
lemma writable_of_generate {limit seed : Int} {dice : Dice σ} {journal : Journal}
    {primary : StarId} {run : Run σ Atlas}
    (ran : generate limit seed ⟨dice, journal, ⟨[], main⟩⟩ = .ok primary run)
    (flag : main.isSatellite = false) : 0 ≤ main.profile.size := by
  unfold generate at ran
  obtain ⟨_, first, changed, ran⟩ := Gen.exists_of_bind_ok ran
  cases changed
  obtain ⟨_, second, looked, ran⟩ := Gen.exists_of_bind_ok ran
  cases looked
  obtain ⟨_, third, -, ran⟩ := Gen.exists_of_bind_ok ran
  obtain ⟨text, fourth, written, -⟩ := Gen.exists_of_bind_ok ran
  cases htext : (prepare main).profileText with
  | error e =>
    have written : (liftM (prepare main).profileText : Gen σ Atlas String) third =
      .ok text fourth := written
    rw [htext] at written
    cases written
  | ok text => exact (prepare main).size_nonneg_of_profileText rfl flag htext

/-- A main world whose digits were read from a text is fit for the generator unless it is a moonlet
without the flag of a satellite. -/
lemma inRange_of_writable {text : List Char} {satellite : Bool}
    (read : Profile.read text satellite = .ok main.profile)
    (writable : main.isSatellite = true ∨ 0 ≤ main.profile.size) :
    main.profile.InRange (leastSize main.isSatellite) := by
  have inRange := Profile.inRange_of_read read
  cases flag : main.isSatellite with
  | true =>
    refine inRange.mono ?_
    cases satellite <;> decide
  | false =>
    rw [flag] at writable
    exact { inRange with size := ⟨writable.resolve_left nofun, inRange.size.2⟩ }

variable [Inexhaustible σ]

/-- **The flag of the main world.**  Let the digits of a main world be read from a profile text, as
those of a satellite or not, and let it be flagged as a satellite or not.  A system is generated
unless the size of the main world is that of a moonlet and it is not flagged, so that its profile
has no text. In the tree of the system the main world either stands in a slot or is a satellite of a
gas giant.  It ends up flagged exactly if it is a satellite of a gas giant or was flagged before.

**Proof sketch.** The search for a seat ends in one of two ways: it flags the main world and adds it
to a gas giant, or puts it into a slot without looking at the flag.  No other step touches the flag,
and the main world stays where it is, in one place alone. -/
theorem isSatellite_iff {text : List Char} {satellite : Bool}
    (read : Profile.read text satellite = .ok main.profile) (bare : main.satellites = [])
    (limit seed : Int) (dice : Dice σ) (journal : Journal) :
    ((∃ primary run, generate limit seed ⟨dice, journal, ⟨[], main⟩⟩ = .ok primary run) ↔
      main.isSatellite = true ∨ 0 ≤ main.profile.size) ∧
    ∀ primary run, generate limit seed ⟨dice, journal, ⟨[], main⟩⟩ = .ok primary run →
      ∃ t, run.scene.tree primary = .ok t ∧ (t.HasMainInSlot ↔ ¬t.HasMainAsMoon) ∧
        (run.scene.main.isSatellite = true ↔ t.HasMainAsMoon ∨ main.isSatellite = true) := by
  have writable : (∃ primary run, generate limit seed ⟨dice, journal, ⟨[], main⟩⟩ =
      .ok primary run) → main.isSatellite = true ∨ 0 ≤ main.profile.size := by
    rintro ⟨primary, run, ran⟩
    cases flag : main.isSatellite with
    | true => exact .inl rfl
    | false => exact .inr (writable_of_generate ran flag)
  have ends := fun charted : main.profile.InRange (leastSize main.isSatellite) =>
    ends_generate charted bare limit seed dice journal
  refine ⟨⟨writable, fun fit => ?_⟩, fun primary run ran => ?_⟩
  · obtain ⟨primary, run, ran, -⟩ := (ends (inRange_of_writable read fit)).exists_ok
    exact ⟨primary, run, ran⟩
  · have charted := inRange_of_writable read (writable ⟨primary, run, ran⟩)
    obtain ⟨rfl, a, last, k, warnings, built, course, -⟩ := (ends charted).of_ok ran
    have generated := generated_of_course charted built course
    obtain ⟨t, tree, walk⟩ := Atlas.exists_tree generated.spans
    have start := sound_of_built (σ := σ) charted built
    have entry : a.main.isSatellite = main.isSatellite := by
      rw [built.main_eq]
      rfl
    obtain ⟨apart, flag⟩ := course.tree_flag start generated.sound walk
    exact ⟨t, tree, apart, entry ▸ flag⟩

/-- The flag of a flagged main world in its system. -/
theorem isSatellite_iff_flagged :
    Profile.read ['X', '1', '0', '0', '0', '0', '0', '-', '0'] false = .ok World.flagged.profile ∧
    World.flagged.satellites = [] ∧
    ((∃ primary run, generate 10 1 (⟨⟨(⟨1⟩ : Congruential), []⟩, [], ⟨[], .flagged⟩⟩ :
        Run Congruential Atlas) = .ok primary run) ↔
      World.flagged.isSatellite = true ∨ 0 ≤ World.flagged.profile.size) ∧
    ∀ primary run, generate 10 1 (⟨⟨(⟨1⟩ : Congruential), []⟩, [], ⟨[], .flagged⟩⟩ :
        Run Congruential Atlas) = .ok primary run →
      ∃ t, run.scene.tree primary = .ok t ∧ (t.HasMainInSlot ↔ ¬t.HasMainAsMoon) ∧
        (run.scene.main.isSatellite = true ↔
          t.HasMainAsMoon ∨ World.flagged.isSatellite = true) := by
  have read : Profile.read ['X', '1', '0', '0', '0', '0', '0', '-', '0'] false =
      .ok World.flagged.profile := by decide
  exact ⟨read, rfl, isSatellite_iff read rfl 10 1 _ _⟩

/-! ### A flag that stayed -/

/-- A main world in a slot of its system that is flagged as a satellite. -/
theorem exists_stale_flag : World.flagged.Accepted ∧ ∃ primary run t,
    generate 64 0 (⟨⟨(⟨2⟩ : Congruential), []⟩, [], ⟨[], .flagged⟩⟩ : Run Congruential Atlas) =
      .ok primary run ∧ run.scene.tree primary = .ok t ∧ t.HasMainInSlot ∧
        run.scene.main.isSatellite = true := by
  obtain ⟨primary, run, t, ran, tree, stale⟩ := Gen.exists_of_treePasses
    (generate 64 0) ⟨⟨(⟨2⟩ : Congruential), []⟩, [], ⟨[], .flagged⟩⟩
    (fun a t => (t.walk.any fun s => s.slots.any Slot.isMain) && a.main.isSatellite)
    (by decide +kernel)
  obtain ⟨held, flag⟩ := Bool.and_eq_true_iff.mp stale
  exact ⟨World.accepted_flagged, primary, run, t, ran, tree, Tree.hasMainInSlot_of_any held, flag⟩

end Generator

end Starchart
