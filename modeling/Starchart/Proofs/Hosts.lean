import Starchart.Proofs.Displacement
import Starchart.Proofs.LesserWorlds
import Starchart.Proofs.MainMoon
import Starchart.Proofs.Naming

/-!
# The noted hosts of the main world

When the main world is placed, the bodies that it comes to are noted as its hosts by the names that
they have at that moment.  The name of a companion star is final.  A gas giant has its designation
then, and it may get a proper name once its satellites are known, of which the main world is one.
So the note on a gas giant names a body of the finished system exactly if the main world, which is
the most populous of these satellites, has no sizeable settlement.

## Main definitions

* `Starchart.Tree.Hosts` — a body of this name has the main world.
* `Starchart.Atlas.Designated` — charts on which gas giants have designations until they get moons.

## Main results

* `Starchart.Generator.hosts_iff` — when the noted hosts are those of the finished system.
* `Starchart.Generator.exists_stale_host` — a noted host that is none in the finished system.
-/

set_option autoImplicit false

namespace Starchart

/-- A gas giant of this name has the main world as a satellite, or a companion star of this name has
it in one of its slots. These are the two ways in which the main world can come to another body. -/
def Tree.Hosts (t : Tree) (host : String) : Prop :=
  (∃ s ∈ t.walk, ∃ g, .giant g ∈ s.slots ∧ g.name = host ∧ .main ∈ g.satellites) ∨
    ∃ s ∈ t.walk.tail, s.name = host ∧ .main ∈ s.slots

variable {σ : Type} [RandomSource σ]

namespace Atlas

variable {limit : Int} {a b : Atlas} {seat : Option (StarId × Nat)} {id : StarId}
  {s root : StarSystem}

/-! ## Designations -/

/-- The gas giants of stars that have not entered the phase of satellites have the designations of
their slots. -/
def Designated (a : Atlas) : Prop :=
  ∀ ⦃id : StarId⦄ ⦃s : StarSystem⦄ ⦃i : Nat⦄ ⦃g : GasGiant⦄, a.star? id = some s →
    Phase.satellites.mayFollow s.phase = true → s.slots[i]? = some (.giant g) →
    Name.designation s.name i = .ok g.name

/-- Nothing is to be shown of a fresh chart, which has no gas giants. -/
lemma designated_of_fresh
    (fresh : ∀ {id : StarId} {s : StarSystem}, a.star? id = some s → a.Fresh id s) :
    a.Designated := by
  intro id s i g found _ held
  cases (fresh found).slots held

/-- A step keeps designations: a gas giant gets one when it is rolled, and it does not change before
the phase of satellites.

**Proof sketch.** A gas giant was decided before the step, by the step, or got satellites in the
step. In the last case its star is in the phase of satellites already; in the second it is rolled
with its designation; and in the first it had it and the star could enter that phase before as
well. -/
lemma Grown.designated (h : a.Grown σ b) (sound : a.Sound σ seat) (designated : a.Designated) :
    b.Designated := by
  intro id t i g found may held
  obtain ⟨s, known, alike⟩ := h.exists_before found
  obtain ⟨t', found', -, -, back⟩ := h.star known
  obtain rfl := Option.eq_some_unique found found'
  have may := back .satellites may
  obtain ⟨content, held', step⟩ := h.exists_slot_before known found alike held
  rw [alike.name]
  cases step with
  | kept => exact designated known may held'
  | decided rolled =>
    have few := (sound.stars known).few
    have lt := (List.getElem?_eq_some_iff.mp held').1
    exact (rolled.giant_facts (by omega)).2.2
  | giant reached =>
    rw [reached] at may
    cases may

/-- Gas giants keep their designations until they get moons. -/
lemma Reaches.designated (h : Reaches σ limit a b) (start : a.Sound σ seat)
    (designated : a.Designated) : b.Designated := by
  induction h with
  | refl => exact designated
  | tail steps step ih =>
    have before := Reaches.sound steps start
    exact (step.grown before).designated before ih

/-! ## The way to the seat -/

/-- On a chart that was seeded, the main world takes a slot of the primary star, or it comes to a
companion star and takes one of its slots, or it comes to a gas giant of the primary star.

**Proof sketch.** The search goes on to a companion only from a slot that holds one. The slots of
that companion are all undecided, so that neither a gas giant nor another companion is found
there. -/
lemma Hosted.cases_near {place : Option (StarId × Nat)} {hosts : List String}
    (h : a.Hosted b 0 place hosts) (sound : a.Sound σ seat) (found : a.star? 0 = some root)
    (primary : root.orbit = Orbit.primary) (near : a.NearBare) :
    (∃ i, place = some (0, i) ∧ hosts = []) ∨
      (∃ id c i, id ≠ 0 ∧ a.star? id = some c ∧ place = some (id, i) ∧ hosts = [c.name]) ∨
      ∃ i g, hosts = [g.name] ∧ root.slots[i]? = some (.giant g) ∧
        b.slot? 0 i = some (.giant { g with satellites := g.satellites ++ [.main] }) := by
  cases h with
  | slot => exact .inl ⟨_, rfl, rfl⟩
  | moon held taken => exact .inr (.inr ⟨_, _, rfl, (slot?_eq found _).symm.trans held, taken⟩)
  | into held foundC rest =>
    rw [slot?_eq found] at held
    obtain ⟨other, c, foundC', -, -, undecided⟩ := sound.exists_companion found primary near held
    obtain rfl := Option.eq_some_unique foundC foundC'
    -- nothing was decided about the slots of the companion
    cases rest with
    | slot => exact .inr (.inl ⟨_, _, _, other, foundC, rfl, rfl⟩)
    | moon heldC taken =>
      rw [slot?_eq foundC] at heldC
      cases undecided heldC
    | into heldC foundD below =>
      rw [slot?_eq foundC] at heldC
      cases undecided heldC

/-! ## Hosts in finished systems -/

/-- A companion star in the tree of a chart is a star other than the primary one. -/
lemma exists_of_mem_tail {t : Tree} (walk : t.walk = a.stars) (mem : s ∈ t.walk.tail) :
    ∃ id, id ≠ 0 ∧ a.star? id = some s := by
  rw [walk] at mem
  obtain ⟨n, held⟩ := List.getElem?_of_mem mem
  rw [List.getElem?_tail] at held
  exact ⟨n + 1, Nat.succ_ne_zero n, held⟩

/-- The main world in a slot of the primary star has no host. -/
lemma Sound.not_hosts {t : Tree} {i : Nat} (sound : a.Sound σ seat) (walk : t.walk = a.stars)
    (found : a.star? 0 = some s) (held : s.slots[i]? = some .main) (host : String) :
    ¬t.Hosts host := by
  rintro (⟨s', hs', g, mem, -, moon⟩ | ⟨s', hs', -, taken⟩)
  · have inSlot : t.HasMainInSlot :=
      ⟨s, walk ▸ List.mem_of_getElem? found, List.mem_of_getElem? held⟩
    exact sound.not_hasMainAsMoon walk inSlot ⟨s', hs', g, mem, moon⟩
  · obtain ⟨id, other, found'⟩ := exists_of_mem_tail walk hs'
    obtain ⟨i', held'⟩ := List.getElem?_of_mem taken
    obtain ⟨same, -⟩ := sound.seat_unique found held (Slot.mains_main_pos _) found' held'
      (Slot.mains_main_pos _)
    exact other same.symm

/-- The main world in a slot of a companion star makes that its host. -/
lemma hosts_of_slot {t : Tree} (walk : t.walk = a.stars) (other : id ≠ 0)
    (found : a.star? id = some s) (taken : .main ∈ s.slots) : t.Hosts s.name := by
  refine .inr ⟨s, ?_, rfl, taken⟩
  rw [walk]
  obtain ⟨n, rfl⟩ := Nat.exists_eq_succ_of_ne_zero other
  refine List.mem_of_getElem? (i := n) ?_
  rw [List.getElem?_tail]
  exact found

/-- Where the main world is the moon of a gas giant, that alone is its host.

**Proof sketch.** The main world is met once in a sound chart. So another gas giant that has it as a
satellite stands in the same slot, and it is in no slot of its own that could make a companion its
host. -/
lemma Sound.hosts_iff_of_moon {t : Tree} {i : Nat} {g : GasGiant} (sound : a.Sound σ seat)
    (walk : t.walk = a.stars) (found : a.star? id = some s) (held : s.slots[i]? = some (.giant g))
    (mem : .main ∈ g.satellites) (host : String) : t.Hosts host ↔ g.name = host := by
  have moon : 0 < (Slot.giant g).mains a.main := List.countP_pos_iff.mpr ⟨_, mem, rfl⟩
  constructor
  · rintro (⟨s', hs', g', mem', name, moon'⟩ | ⟨s', hs', -, taken⟩)
    · rw [walk] at hs'
      obtain ⟨id', found'⟩ := List.getElem?_of_mem hs'
      obtain ⟨i', held'⟩ := List.getElem?_of_mem mem'
      obtain ⟨rfl, rfl⟩ := sound.seat_unique found held moon found' held'
        (List.countP_pos_iff.mpr ⟨_, moon', rfl⟩)
      obtain rfl := Option.eq_some_unique found found'
      cases Option.eq_some_unique held held'
      exact name
    · refine absurd ?_ (sound.not_hasMainAsMoon walk ⟨s', List.mem_of_mem_tail hs', taken⟩)
      exact ⟨s, walk ▸ List.mem_of_getElem? found, g, List.mem_of_getElem? held, mem⟩
  · rintro rfl
    exact .inl ⟨s, walk ▸ List.mem_of_getElem? found, g, List.mem_of_getElem? held, rfl, mem⟩

/-- The moons of a gas giant that has the main world among them are as populous as that at most, so
whether any of them has a sizeable settlement is told by the main world. -/
lemma Sound.forall_population_lt_iff {i : Nat} {g : GasGiant} {count : Int}
    (sound : a.Sound σ seat) (bare : a.BareAsMoon) (found : a.star? id = some s)
    (held : s.slots[i]? = some (.giant g)) (mem : .main ∈ g.satellites) (some : 0 < count) :
    (∀ m ∈ g.satellites, (m.body a.main).profile.population < count) ↔
      a.main.profile.population < count := by
  refine ⟨fun few => few _ mem, fun few m hm => ?_⟩
  cases m with
  | main => exact few
  | own w =>
    have range := sound.population_range bare found held (.giant hm)
    exact Int.lt_of_le_of_lt range.2 (by omega)

end Atlas

namespace Generator

variable {main : World} {limit : Int} {journal : Journal} {start first second run : Run σ Atlas}
  {root : StarSystem} {path : List StarId} {last : StarId} {k : Nat}

namespace Stages

/-- The chart on which the main world is placed is sound. -/
lemma sound_first (h : Stages main limit journal start first second run root path last k)
    (accepted : main.Accepted) : first.scene.Sound σ none :=
  h.seeded.reaches.sound (sound_of_built accepted.inRange h.built)

/-- Nothing but placing the main world notes hosts. -/
lemma hosts_eq (h : Stages main limit journal start first second run root path last k)
    {hosts : List String} {place : Option (StarId × Nat)}
    (places : Population.Places 0 place hosts first second) :
    run.journal.hosts = journal.hosts ++ hosts.map fun (host : String) => .text host := by
  have seeding := (Population.within_seed (Atlas.admits_keepsMain 0)).moves h.seeding
  have finishing := (Population.within_finish Atlas.admits_keepsMain limit _ 0).moves h.finishing
  rw [finishing.journal.hosts_eq (by decide), places.announced, seeding.journal.hosts_eq (by decide),
    h.silent.hosts_eq List.not_mem_nil]

/-- The main world stays in the slot that it took. -/
lemma exists_main_slot (h : Stages main limit journal start first second run root path last k)
    {id : StarId} {s : StarSystem} {i : Nat} (known : first.scene.star? id = some s)
    (taken : second.scene.slot? id i = some .main) :
    ∃ t, run.scene.star? id = some t ∧ t.name = s.name ∧ t.slots[i]? = some .main := by
  obtain ⟨t, found, alike⟩ := h.arrives.exists_alike h.steps known
  exact ⟨t, found, alike.name, h.arrives.main_slot h.steps taken found⟩

/-- The gas giant that takes the main world as a moon keeps it, and it keeps its name exactly if the
main world has no sizeable settlement.

**Proof sketch.** When the main world arrives, the gas giant has the designation of its slot.  In
the end it has that exactly if no moon has a population of five or more, and no moon has a larger
one than the main world. -/
lemma exists_giant (h : Stages main limit journal start first second run root path last k)
    (accepted : main.Accepted) {i : Nat} {g : GasGiant} (held : root.slots[i]? = some (.giant g))
    (taken : second.scene.slot? 0 i =
      some (.giant { g with satellites := g.satellites ++ [.main] })) :
    ∃ s g', run.scene.star? 0 = some s ∧ s.slots[i]? = some (.giant g') ∧ .main ∈ g'.satellites ∧
      (g'.name = g.name ↔ main.profile.population < 5) := by
  have sound := h.generated.sound
  obtain ⟨g', held'⟩ := h.steps.exists_giant h.arrives.sound taken
  obtain ⟨s, found, held'⟩ := Atlas.exists_star held'
  obtain ⟨u, found', alike⟩ := h.arrives.exists_alike h.steps h.found
  obtain rfl := Option.eq_some_unique found found'
  -- the main world is seated in this slot and no other one
  obtain ⟨v, foundV, heldV⟩ := Atlas.exists_star taken
  have moon : 0 < (Slot.giant { g with satellites := g.satellites ++ [.main] }).mains
      second.scene.main :=
    List.countP_pos_iff.mpr ⟨_, List.mem_append_right _ List.mem_cons_self, rfl⟩
  obtain ⟨rfl, rfl⟩ : last = 0 ∧ k = i := by
    have here := h.arrives.sound.seat_eq foundV heldV moon
    simpa using here
  have mem := sound.main_mem_satellites found held'
  refine ⟨s, g', found, held', mem, ?_⟩
  have before : Name.designation root.name k = .ok g.name := by
    have designated : first.scene.Designated := h.seeded.reaches.designated
      (sound_of_built (σ := σ) accepted.inRange h.built) (Atlas.designated_of_fresh h.built.fresh)
    exact designated h.found (by rw [h.reached]; rfl) held
  have primary : s.phase = some .companions := by
    rcases (h.generated.star found).2 with ⟨contact, -⟩ | ⟨-, finished⟩
    · rw [alike.orbit, h.primary] at contact
      cases contact
    · exact finished.phase
  have titled := h.titled accepted found primary k found held'
  have profile : run.scene.main.profile = main.profile :=
    (congrArg World.profile h.generated.charter :)
  rw [← profile, ← sound.forall_population_lt_iff h.generated.bareAsMoon found held' mem (by decide)]
  refine Iff.trans ?_ titled
  rw [alike.name, before]
  exact ⟨fun same => same ▸ rfl, fun same => (Except.ok.inj same).symm⟩

/-- The hosts that are noted until the end, and which of them are hosts then.

**Proof sketch.** The placement tells what it noted in three cases. In a slot of the primary star
the main world has no host, and none was noted. In a slot of a companion that star is its host, and
is noted under the name that it keeps. As a moon it has a gas giant as its host, which was noted
under the name of that moment; it still has this name in the end exactly if it was not given another
one with its satellites. -/
lemma exists_hosts (h : Stages main limit journal start first second run root path last k)
    (accepted : main.Accepted) {t : Tree} (walk : t.walk = run.scene.stars) :
    ∃ hosts : List String,
      run.journal.hosts = journal.hosts ++ hosts.map (fun (host : String) => .text host) ∧
        (hosts ≠ [] ↔ ∃ host, t.Hosts host) ∧
        ∀ host ∈ hosts, t.Hosts host ↔ main.profile.population < 5 ∨ ¬t.HasMainAsMoon := by
  have before := h.sound_first accepted
  have sound := h.generated.sound
  have fitted : first.scene.Fitted := fun id s found => by
    have capacity := (before.stars found).capacity
    omega
  obtain ⟨place, hosts, places⟩ := Population.places_placeMain limit fitted () second h.placing
  refine ⟨hosts, h.hosts_eq places, ?_⟩
  rcases places.hosted.cases_near before h.found h.primary h.near with
    ⟨i, rfl, rfl⟩ | ⟨id, c, i, other, foundC, rfl, rfl⟩ | ⟨i, g, rfl, held, taken⟩
  · -- the main world is in a slot of the primary star, and no host was noted
    obtain ⟨s, found, -, held⟩ := h.exists_main_slot h.found (places.taken rfl)
    have none : ¬∃ host, t.Hosts host := not_exists.mpr (sound.not_hosts walk found held)
    exact ⟨iff_of_false (not_not_intro rfl) none, nofun⟩
  · -- the main world is in a slot of a companion star
    obtain ⟨s, found, name, held⟩ := h.exists_main_slot foundC (places.taken rfl)
    have mem : .main ∈ s.slots := List.mem_of_getElem? held
    have inSlot : t.HasMainInSlot := ⟨s, walk ▸ List.mem_of_getElem? found, mem⟩
    have hosts : t.Hosts c.name := name ▸ Atlas.hosts_of_slot walk other found mem
    refine ⟨iff_of_true (List.cons_ne_nil _ _) ⟨_, hosts⟩, fun host noted => ?_⟩
    rw [List.mem_singleton.mp noted]
    exact iff_of_true hosts (.inr (sound.not_hasMainAsMoon walk inSlot))
  · -- the main world is a moon
    obtain ⟨s, g', found, held', mem, same⟩ := h.exists_giant accepted held taken
    have moon : t.HasMainAsMoon :=
      ⟨s, walk ▸ List.mem_of_getElem? found, g', List.mem_of_getElem? held', mem⟩
    have told := sound.hosts_iff_of_moon walk found held' mem
    refine ⟨iff_of_true (List.cons_ne_nil _ _) ⟨g'.name, (told _).mpr rfl⟩, fun host noted => ?_⟩
    rw [List.mem_singleton.mp noted, told, same]
    exact ⟨.inl, fun stays => stays.resolve_right (not_not_intro moon)⟩

end Stages

variable [Inexhaustible σ]

/-- **Noted hosts.**  In a run of the generator the main world is noted to have come to some bodies,
and to none exactly if it has no host in the finished system: no gas giant has it as a satellite,
and no companion star has it in a slot.  Each of these notes names a host that it has there exactly
if its population is below five or it is no moon of a gas giant.

**Proof sketch.** What is noted is read off the program text.  On the chart that was seeded the
search for a seat comes to a companion star with undecided slots only, of which the main world takes
one, or to a gas giant.  Later steps leave the names of stars alone, and the slot of the main world.
The gas giant has the designation of its slot when it is noted, and keeps it exactly if none of its
moons has a sizeable settlement.  Since the main world is the most populous of them, that is for it
to decide. -/
theorem hosts_iff (accepted : main.Accepted) (limit seed : Int) (dice : Dice σ)
    (journal : Journal) : ∃ primary run t, ∃ hosts : List String,
      generate limit seed ⟨dice, journal, ⟨[], main⟩⟩ = .ok primary run ∧
        run.scene.tree primary = .ok t ∧
        run.journal.hosts = journal.hosts ++ hosts.map (fun (host : String) => .text host) ∧
        (hosts ≠ [] ↔ ∃ host, t.Hosts host) ∧
        ∀ host ∈ hosts, t.Hosts host ↔ main.profile.population < 5 ∨ ¬t.HasMainAsMoon := by
  obtain ⟨start, first, second, run, root, path, last, k, ran, stages⟩ :=
    exists_stages accepted limit seed dice journal
  obtain ⟨t, tree, walk⟩ := Atlas.exists_tree stages.generated.spans
  obtain ⟨hosts, noted, some, told⟩ := stages.exists_hosts accepted walk
  exact ⟨0, run, t, hosts, ran, tree, noted, some, told⟩

/-- The noted hosts of a main world of its kind. -/
theorem hosts_iff_regina : World.regina.Accepted ∧ ∃ primary run t, ∃ hosts : List String,
    generate 10 1 (⟨⟨(⟨1⟩ : Congruential), []⟩, [], ⟨[], .regina⟩⟩ : Run Congruential Atlas) =
      .ok primary run ∧ run.scene.tree primary = .ok t ∧
      run.journal.hosts = Journal.hosts [] ++ hosts.map (fun (host : String) => .text host) ∧
      (hosts ≠ [] ↔ ∃ host, t.Hosts host) ∧
      ∀ host ∈ hosts, t.Hosts host ↔ World.regina.profile.population < 5 ∨ ¬t.HasMainAsMoon :=
  ⟨World.accepted_regina, hosts_iff World.accepted_regina 10 1 _ _⟩

/-! ### A note on a gas giant that was renamed -/

/-- A noted host that is none in the end: the gas giant that has the main world as a moon got
another name.

**Proof sketch.** The run is evaluated only as far as to see that the main world ends up as a moon.
A host was noted then, and since the population of the main world is not below five, it is no host
in the end. -/
theorem exists_stale_host : World.regina.Accepted ∧ ∃ primary run t host,
    generate 64 0 (⟨⟨(⟨1841⟩ : Congruential), []⟩, [], ⟨[], .regina⟩⟩ : Run Congruential Atlas) =
      .ok primary run ∧ run.scene.tree primary = .ok t ∧
        .text host ∈ run.journal.hosts ∧ ¬t.Hosts host := by
  obtain ⟨start, first, second, run, root, path, last, k, ran, stages⟩ :=
    exists_stages World.accepted_regina 64 0 ⟨(⟨1841⟩ : Congruential), []⟩ []
  obtain ⟨t, tree, walk⟩ := Atlas.exists_tree stages.generated.spans
  have moon : t.HasMainAsMoon := by
    refine Tree.hasMainAsMoon_of_any run.scene.main ?_
    rw [walk]
    exact Gen.check_of_runPasses (fun run => run.scene.stars.any fun s => s.slots.any fun content =>
      content.isGiant && content.mains run.scene.main == 1) (by decide +kernel) ran
  obtain ⟨hosts, noted, some, told⟩ := stages.exists_hosts World.accepted_regina walk
  obtain ⟨s, hs, g, mem, hosted⟩ := moon
  obtain ⟨host, others, rfl⟩ := List.exists_cons_of_ne_nil
    (some.mpr ⟨g.name, .inl ⟨s, hs, g, mem, rfl, hosted⟩⟩)
  refine ⟨World.accepted_regina, 0, run, t, host, ran, tree, ?_, ?_⟩
  · rw [noted]
    exact List.mem_append_right _ List.mem_cons_self
  · rw [told host List.mem_cons_self, not_or, not_not]
    exact ⟨by decide, s, hs, g, mem, hosted⟩

end Generator

end Starchart
