import Starchart.Proofs.Systems

/-!
# Placing the main world on any tree

The main world can be placed on every finite tree of nested stars, whatever their slots hold.  The
search for a habitable orbit follows nested stars with orbits from target to target, which is a way
that the chart alone tells.  It never meets a star twice, so it ends.  One slot changes, and every
star on the way has the main world assigned to it.

## Main definitions

* `Starchart.Atlas.Rooted` — the stars nested below a star form a finite tree.
* `Starchart.Atlas.Pursuit` — the nested stars that the search for a habitable orbit goes through.
* `Starchart.Atlas.occurrences` — how often the main world occurs on a chart.
* `Starchart.Atlas.PlacedAt` — what placing the main world does to a chart.

## Main results

* `Starchart.Atlas.Rooted.nests` — a finite tree is no deeper than the chart has stars.
* `Starchart.Atlas.Pursuit.unique` — the chart tells one way only.
* `Starchart.Population.placeMain_places` — placing the main world succeeds on every finite tree.
-/

set_option autoImplicit false

namespace Starchart

variable {σ : Type} [RandomSource σ]

/-! ## Finite trees of nested stars -/

namespace Atlas

variable {a b : Atlas} {id root last : StarId} {s : StarSystem} {path : List StarId}

/-- The stars nested in the slots below a star form a finite tree.  Each has a table column and
exactly as many slots as its capacity says. -/
inductive Rooted (a : Atlas) : StarId → Prop
  | node {id : StarId} {s : StarSystem} (found : a.star? id = some s) (regular : s.Regular)
      (below : ∀ {i : Nat} {companion : StarId} {name : String} {star : Star},
        s.slots[i]? = some (.star companion name star) → Rooted a companion) :
      Rooted a id

/-- Ways down compose. -/
lemma Descends.append {mid : StarId} {further : List StarId} (h : a.Descends id path mid)
    (h' : a.Descends mid further last) : a.Descends id (path ++ further) last := by
  induction h with
  | here => exact h'
  | into found held rest ih => exact .into found held (ih h')

namespace Rooted

/-- No star of a finite tree is nested below itself. -/
lemma path_eq_nil (h : a.Rooted id) (way : a.Descends id path id) : path = [] := by
  induction h generalizing path with
  | node found regular below ih =>
    cases way with
    | here => rfl
    | into found' held rest =>
      obtain rfl := Option.eq_some_unique found found'
      -- the way goes on from the companion around to the companion itself
      have around := ih held (rest.append (.into found held .here))
      exact absurd around (List.append_ne_nil_of_right_ne_nil _ (List.cons_ne_nil _ _))

/-- Below distinct stars that lead down to it, a finite tree has no more levels than the chart has
other stars.

**Proof sketch.** The star is none of those above it, so with it there is one more distinct star on
the way to each of its companions. -/
lemma nests_below (h : a.Rooted id) {above : List StarId} (distinct : above.Nodup)
    (known : ∀ u ∈ above, u < a.stars.length)
    (ways : ∀ u ∈ above, ∃ path, path ≠ [] ∧ a.Descends u path id) :
    a.Nests (a.stars.length - above.length) id := by
  induction h generalizing above with
  | @node id s found regular below ih =>
    have new : id ∉ above := fun mem => by
      obtain ⟨path, some, way⟩ := ways id mem
      exact some ((Rooted.node found regular below).path_eq_nil way)
    have distinct' : (id :: above).Nodup := List.nodup_cons.mpr ⟨new, distinct⟩
    have known' : ∀ u ∈ id :: above, u < a.stars.length :=
      List.forall_mem_cons.mpr ⟨lt_length found, known⟩
    have few : (id :: above).length ≤ a.stars.length := by
      have sub : id :: above ⊆ List.range a.stars.length :=
        fun u mem => List.mem_range.mpr (known' u mem)
      simpa using (List.subperm_of_subset distinct' sub).length_le
    have level : a.stars.length - above.length =
        a.stars.length - (id :: above).length + 1 := by
      rw [List.length_cons] at few ⊢
      omega
    rw [level]
    refine .intro found regular fun held => ih held distinct' known' ?_
    refine List.forall_mem_cons.mpr ⟨⟨_, List.cons_ne_nil _ _, .into found held .here⟩, ?_⟩
    intro u mem
    obtain ⟨path, -, way⟩ := ways u mem
    exact ⟨_, List.append_ne_nil_of_right_ne_nil _ (List.cons_ne_nil _ _),
      way.append (.into found held .here)⟩

/-- A finite tree has no more levels than the chart has stars. -/
theorem nests (h : a.Rooted id) : a.Nests a.stars.length id :=
  h.nests_below List.nodup_nil (fun _ mem => absurd mem List.not_mem_nil)
    fun _ mem => absurd mem List.not_mem_nil

/-- Readying a star for the main world keeps the trees. -/
lemma readied (h : a.Rooted id) (found : a.star? root = some s) :
    (Population.readied a root s).Rooted id := by
  induction h with
  | node known regular below ih =>
    exact .node (star?_readied found [] known)
      ⟨regular.classified, regular.capacity, regular.countable⟩ fun held => ih held

end Rooted

/-! ## The way of the search -/

/-- The nested stars that the search for a habitable orbit goes through from a star, and the last
star that it searches: it goes on wherever the target orbit holds a star with orbits. -/
inductive Pursuit (a : Atlas) : StarId → List StarId → StarId → Prop
  | stop {id : StarId} {s : StarSystem} {zones : Zones} (found : a.star? id = some s)
      (zoned : s.star.zones = .ok zones)
      (barred : ∀ {i : Nat} {companion : StarId} {name : String} {star : Star} {c : StarSystem},
        s.target zones = i → s.slots[i]? = some (.star companion name star) →
          a.star? companion = some c → c.maxOrbits = 0) :
      Pursuit a id [] id
  | into {id companion last : StarId} {s c : StarSystem} {zones : Zones} {i : Nat} {name : String}
      {star : Star} {path : List StarId} (found : a.star? id = some s)
      (zoned : s.star.zones = .ok zones) (target : s.target zones = i)
      (held : s.slots[i]? = some (.star companion name star)) (foundC : a.star? companion = some c)
      (room : c.maxOrbits ≠ 0) (rest : Pursuit a companion path last) :
      Pursuit a id (companion :: path) last

namespace Pursuit

/-- A chart tells one way only.

**Proof sketch.** By induction on the first way. At each star both ways look at the same slot, since
the zones and hence the target are the same; so either both stop, or both go on to the same
companion. -/
theorem unique {path' : List StarId} {last' : StarId} (h : a.Pursuit id path last)
    (h' : a.Pursuit id path' last') : path = path' ∧ last = last' := by
  induction h generalizing path' with
  | stop found zoned barred =>
    cases h' with
    | stop => exact ⟨rfl, rfl⟩
    | into found' zoned' target held foundC room =>
      obtain rfl := Option.eq_some_unique found found'
      obtain rfl := Except.ok.inj (zoned.symm.trans zoned')
      exact absurd (barred target held foundC) room
  | @into id companion last s c zones i name star path found zoned target held foundC room rest ih =>
    cases h' with
    | stop found' zoned' barred =>
      obtain rfl := Option.eq_some_unique found found'
      obtain rfl := Except.ok.inj (zoned.symm.trans zoned')
      exact absurd (barred target held foundC) room
    | @into _ _ _ _ _ _ j _ _ _ found' zoned' target' held' foundC' room' rest' =>
      obtain rfl := Option.eq_some_unique found found'
      obtain rfl := Except.ok.inj (zoned.symm.trans zoned')
      obtain rfl : i = j := Int.ofNat_inj.mp (target.symm.trans target')
      rw [held] at held'
      injection held' with same
      injection same with same
      subst same
      obtain ⟨rfl, rfl⟩ := ih rest'
      exact ⟨rfl, rfl⟩

/-- The way does not depend on phases and on whom the main world is assigned to.

**Proof sketch.** By induction on the way. A star has the same target on both charts, as that is
told by its zones and its capacity; the slot there holds the same companion, which has orbits on one
chart exactly if it has on the other. -/
lemma congr (h : b.Pursuit id path last)
    (before : ∀ {id : StarId} {t : StarSystem}, b.star? id = some t → ∃ s, a.star? id = some s ∧
      t.star = s.star ∧ t.maxOrbits = s.maxOrbits ∧ t.slots = s.slots)
    (after : ∀ {id : StarId} {s : StarSystem}, a.star? id = some s → ∃ t, b.star? id = some t ∧
      t.maxOrbits = s.maxOrbits) : a.Pursuit id path last := by
  have target : ∀ {s t : StarSystem} {zones : Zones}, t.maxOrbits = s.maxOrbits →
      t.target zones = s.target zones := fun capacity => by
    rw [StarSystem.target, StarSystem.target, capacity]
  induction h with
  | stop found zoned barred =>
    obtain ⟨s, known, star, capacity, slots⟩ := before found
    refine .stop known (star ▸ zoned) fun targeted held foundC => ?_
    obtain ⟨d, foundD, capacityD⟩ := after foundC
    rw [← target capacity] at targeted
    rw [← slots] at held
    exact capacityD.symm.trans (barred targeted held foundD)
  | into found zoned targeted held foundC room rest ih =>
    obtain ⟨s, known, star, capacity, slots⟩ := before found
    obtain ⟨c, knownC, -, capacityC, -⟩ := before foundC
    rw [target capacity] at targeted
    rw [slots] at held
    rw [capacityC] at room
    exact .into known (star ▸ zoned) targeted held knownC room ih

/-- The way does not depend on whom the main world is assigned to. -/
lemma of_assign {other : StarId} (h : (a.assign other).Pursuit id path last) :
    a.Pursuit id path last := by
  refine h.congr (fun found => ?_) fun found => ?_
  · rw [star?_assign] at found
    obtain ⟨s, known, rfl⟩ := Option.map_eq_some_iff.mp found
    exact ⟨s, known, rfl, rfl, rfl⟩
  · exact ⟨_, (star?_assign a other _).trans (congrArg _ found), rfl⟩

/-- Nor on whether a star was readied for the main world. -/
lemma of_readied (found : a.star? root = some s)
    (h : (Population.readied a root s).Pursuit id path last) : a.Pursuit id path last := by
  have length : (Population.readied a root s).stars.length = a.stars.length :=
    length_readied a root s []
  refine h.congr (fun after => ?_) fun known => ?_
  · obtain ⟨u, known⟩ := exists_star_of_lt (length ▸ lt_length after)
    obtain rfl := Option.eq_some_unique (star?_readied found [] known) after
    exact ⟨u, known, rfl, rfl, rfl⟩
  · exact ⟨_, star?_readied found [] known, rfl⟩

end Pursuit

/-- A search from the target orbit of a star goes the way that the chart tells.

**Proof sketch.** By induction on the search. It ends where the target holds no companion, or one
without orbits, and there the way stops as well. Where it goes on the main world is assigned to the
companion on the way, and that makes no difference to what the chart tells. -/
lemma Search.pursuit {i k : Nat} {zones : Zones} {warnings : List Diagnostic}
    (h : a.Search σ id i path last k warnings b) (found : a.star? id = some s)
    (zoned : s.star.zones = .ok zones) (target : s.target zones = i) :
    a.Pursuit id path last := by
  induction h generalizing s zones with
  | slot found' held noStar noGiant seating =>
    obtain rfl := Option.eq_some_unique found found'
    refine .stop found zoned fun target' held' _ => ?_
    obtain rfl := Int.ofNat_inj.mp (target.symm.trans target')
    exact absurd (Option.eq_some_unique held held') (noStar _ _ _)
  | moon found' held seating =>
    obtain rfl := Option.eq_some_unique found found'
    refine .stop found zoned fun target' held' _ => ?_
    obtain rfl := Int.ofNat_inj.mp (target.symm.trans target')
    cases Option.eq_some_unique held held'
  | barred found' held foundC noOrbits seating =>
    obtain rfl := Option.eq_some_unique found found'
    refine .stop found zoned fun target' held' foundD => ?_
    obtain rfl := Int.ofNat_inj.mp (target.symm.trans target')
    cases Option.eq_some_unique held held'
    obtain rfl := Option.eq_some_unique foundC foundD
    exact noOrbits
  | into found' held foundC room zonedC targetC rest ih =>
    obtain rfl := Option.eq_some_unique found found'
    exact .into found zoned target held foundC room
      (ih (star?_assign_self foundC) zonedC targetC).of_assign

/-- The way to the place of a main world that needs a habitable orbit is the one that the chart
tells; any other main world is placed around the star itself. -/
lemma Placement.pursuit {k : Nat} {warnings : List Diagnostic} (found : a.star? root = some s)
    (h : a.Placement σ root s path last k warnings b) :
    if a.main.profile.needsHabitable then a.Pursuit root path last else path = [] ∧ last = root := by
  have ready := star?_readied found [root] found
  cases h with
  | anywhere undemanding seating =>
    rw [undemanding]
    exact ⟨rfl, rfl⟩
  | habitable needs zoned target search =>
    rw [needs]
    exact (search.pursuit ready zoned target).of_assign.of_readied found

end Atlas

/-! ## Counting the main world -/

/-- How often the main world occurs at a slot: in it, or among the satellites of the body there. -/
def Slot.occurrences : Slot → Nat
  | .main => 1
  | .world w => w.satellites.countP Moon.isMain
  | .giant g => g.satellites.countP Moon.isMain
  | .undecided | .empty _ | .star .. => 0

/-- How often the main world occurs at the slots of a star. -/
def StarSystem.occurrences (s : StarSystem) : Nat := (s.slots.map Slot.occurrences).sum

/-- How often the main world occurs on a chart. -/
def Atlas.occurrences (a : Atlas) : Nat := (a.stars.map StarSystem.occurrences).sum

/-- A sum is zero if its terms are. -/
lemma sum_map_eq_zero_iff {α : Type} {f : α → Nat} {xs : List α} :
    (xs.map f).sum = 0 ↔ ∀ {i : Nat} {x : α}, xs[i]? = some x → f x = 0 := by
  rw [List.sum_eq_zero_iff_forall_eq_nat, List.forall_mem_map]
  refine ⟨fun h _ _ held => h _ (List.mem_of_getElem? held), fun h _ mem => ?_⟩
  obtain ⟨i, held⟩ := List.getElem?_of_mem mem
  exact h held

/-- A sum is one if one term is and all others are zero. -/
lemma sum_map_eq_one {α : Type} {f : α → Nat} {xs : List α} {k : Nat} {x : α}
    (held : xs[k]? = some x) (once : f x = 1)
    (others : ∀ {i : Nat} {y : α}, i ≠ k → xs[i]? = some y → f y = 0) : (xs.map f).sum = 1 := by
  refine sum_map_eq (List.getElem?_eq_some_iff.mp held).1 fun i y held' => ?_
  by_cases here : k = i
  · subst here
    rw [if_pos rfl, ← Option.eq_some_unique held held', once]
  · rw [if_neg here, others (Ne.symm here) held']

/-- The main world does not occur around a star if it occurs at none of its slots. -/
lemma StarSystem.occurrences_eq_zero_iff {s : StarSystem} : s.occurrences = 0 ↔
    ∀ {i : Nat} {content : Slot}, s.slots[i]? = some content → content.occurrences = 0 :=
  sum_map_eq_zero_iff

/-- The main world does not occur on a chart if it occurs around none of its stars. -/
lemma Atlas.occurrences_eq_zero_iff {a : Atlas} : a.occurrences = 0 ↔
    ∀ {id : StarId} {s : StarSystem}, a.star? id = some s → s.occurrences = 0 :=
  sum_map_eq_zero_iff

/-- On a chart without the main world no slot has it. -/
lemma Atlas.occurrences_slot_eq_zero {a : Atlas} (absent : a.occurrences = 0) {id : StarId}
    {i : Nat} {content : Slot} (held : a.slot? id i = some content) : content.occurrences = 0 := by
  obtain ⟨s, found, held⟩ := exists_star held
  exact StarSystem.occurrences_eq_zero_iff.mp (occurrences_eq_zero_iff.mp absent found) held

/-- The main world occurs once around a star if it occurs once at one of its slots and not at the
others. -/
lemma StarSystem.occurrences_eq_one {s : StarSystem} {k : Nat} {content : Slot}
    (held : s.slots[k]? = some content) (once : content.occurrences = 1)
    (others : ∀ {i : Nat} {content : Slot}, i ≠ k → s.slots[i]? = some content →
      content.occurrences = 0) : s.occurrences = 1 :=
  sum_map_eq_one held once others

/-- The main world occurs once on a chart if it occurs once around one of its stars and not around
the others. -/
lemma Atlas.occurrences_eq_one {a : Atlas} {last : StarId} {t : StarSystem}
    (found : a.star? last = some t) (once : t.occurrences = 1)
    (others : ∀ {id : StarId} {s : StarSystem}, id ≠ last → a.star? id = some s →
      s.occurrences = 0) : a.occurrences = 1 :=
  sum_map_eq_one found once others

/-! ## The place -/

namespace Atlas

/-- What placing the main world does to a chart without it, where the search went from star `root`
through the stars of `path` to slot `k` of star `last`. -/
structure PlacedAt (a : Atlas) (root : StarId) (path : List StarId) (last : StarId) (k : Nat)
    (b : Atlas) : Prop where
  /-- The main world occurs once. -/
  once : b.occurrences = 1
  /-- It is in the slot and carries its number, or among the satellites of the gas giant there, on
  an orbit that no other of them has. -/
  seat : b.slot? last k = some .main ∧ b.main.orbit = k ∨
    ∃ g, a.slot? last k = some (.giant g) ∧
      b.slot? last k = some (.giant { g with satellites := g.satellites ++ [.main] }) ∧
        ∀ m ∈ g.satellites, (m.body b.main).orbit ≠ b.main.orbit
  position : b.main.position = k
  length : b.stars.length = a.stars.length
  /-- No other slot changes, and the main world is assigned to the stars on the way. -/
  star : ∀ {id : StarId} {s : StarSystem}, a.star? id = some s → ∃ slots,
    b.star? id = some { s with
      slots := slots
      hasMain := s.hasMain || decide (id ∈ root :: path)
      phase := if id = root then some .mainWorld else s.phase } ∧
    slots.length = s.slots.length ∧ ∀ i, ¬(id = last ∧ i = k) → slots[i]? = s.slots[i]?

variable {a b c : Atlas} {id root last : StarId} {s : StarSystem} {path : List StarId} {k : Nat}
  {berth : Berth}

/-- Seated in a slot, the main world carries the number of the slot.  Seated around a gas giant, it
carries an orbit that no other satellite has.

**Proof sketch.** As a moon the main world joins the satellites of the giant, on an orbit that was
free there. The main world itself is not among the earlier ones, as it does not occur on the chart
yet, so that all of them carry an orbit of their own. -/
lemma Seating.seat (h : a.Seating σ last k berth b) (absent : a.occurrences = 0) :
    (b.slot? last k = some .main ∧ b.main.orbit = k) ∨ ∃ g, a.slot? last k = some (.giant g) ∧
      b.slot? last k = some (.giant { g with satellites := g.satellites ++ [.main] }) ∧
        ∀ m ∈ g.satellites, (m.body b.main).orbit ≠ b.main.orbit := by
  cases berth with
  | slot =>
    refine .inl ⟨h.slot_eq, ?_⟩
    cases h
    rfl
  | moon =>
    cases h with
    | @asMoon s g orbit astro found held free outside surveyed =>
      have before := (slot?_eq found k).trans held
      have noMain : g.satellites.countP Moon.isMain = 0 := occurrences_slot_eq_zero absent before
      have after := star?_setStar_self found { s with
        slots := s.slots.set k (.giant { g with satellites := g.satellites ++ [.main] }) }
      refine .inr ⟨g, before, (slot?_eq after k).trans
        (List.getElem?_set_self (List.getElem?_eq_some_iff.mp held).1), fun m mem => ?_⟩
      cases m with
      | main => exact absurd rfl (List.countP_eq_zero.mp noMain _ mem)
      | own w => exact fun same => free (List.mem_map.mpr ⟨_, mem, same⟩)

/-- Seating the main world on a chart without it makes it occur once.

**Proof sketch.** The slot of the seat has the main world once: it is the main world, or a gas giant
without it that got it as one more moon. All other slots are those of before and have it not at
all. -/
lemma Seating.occurrences_eq_one (h : a.Seating σ last k berth b) (absent : a.occurrences = 0) :
    b.occurrences = 1 := by
  -- the slot of the seat has it once
  have seat : ∃ t content, b.star? last = some t ∧ t.slots[k]? = some content ∧
      content.occurrences = 1 := by
    rcases h.seat absent with ⟨held, -⟩ | ⟨g, before, held, -⟩
    · obtain ⟨t, found, held⟩ := exists_star held
      exact ⟨t, _, found, held, rfl⟩
    · obtain ⟨t, found, held⟩ := exists_star held
      have noMain : g.satellites.countP Moon.isMain = 0 := occurrences_slot_eq_zero absent before
      refine ⟨t, _, found, held, ?_⟩
      rw [Slot.occurrences, List.countP_append, noMain]
      rfl
  -- all others are as before
  have others : ∀ {id : StarId} {t : StarSystem} {i : Nat} {content : Slot}, b.star? id = some t →
      t.slots[i]? = some content → ¬(id = last ∧ i = k) → content.occurrences = 0 := by
    intro id t i content found held other
    obtain ⟨s, known⟩ := exists_star_of_lt (h.length_eq ▸ lt_length found)
    obtain ⟨slots, found', -, same⟩ := h.exists_slots known
    obtain rfl := Option.eq_some_unique found' found
    exact occurrences_slot_eq_zero absent
      ((slot?_eq known i).trans ((same i other).symm.trans held))
  obtain ⟨t, content, found, held, once⟩ := seat
  have star : t.occurrences = 1 := StarSystem.occurrences_eq_one held once
    fun ne held => others found held fun here => ne here.2
  exact Atlas.occurrences_eq_one found star fun ne found =>
    StarSystem.occurrences_eq_zero_iff.mpr fun held => others found held fun here => ne here.1

/-- Readying and assigning add no occurrence. -/
lemma occurrences_readied (found : a.star? root = some s) (ids : List StarId) :
    ((Population.readied a root s).assigned ids).occurrences = a.occurrences := by
  refine congrArg List.sum (List.ext_getElem? fun id => ?_)
  rw [List.getElem?_map, List.getElem?_map]
  change (((Population.readied a root s).assigned ids).star? id).map _ = (a.star? id).map _
  cases known : a.star? id with
  | some u => rw [star?_readied found ids known]; rfl
  | none =>
    have bound : a.stars.length ≤ id := List.getElem?_eq_none_iff.mp known
    have none : ((Population.readied a root s).assigned ids).star? id = none :=
      List.getElem?_eq_none_iff.mpr (length_readied a root s ids ▸ bound)
    rw [none]

/-- The main world is placed at the end of the way.

**Proof sketch.** The placement is a seating on the chart where the main world is marked and
assigned to the stars on the way. That chart has the slots of the original one, so that what the
seating tells about slots holds of the original. -/
theorem Placement.placedAt {warnings : List Diagnostic} (found : a.star? root = some s)
    (absent : a.occurrences = 0) (h : a.Placement σ root s path last k warnings b) :
    a.PlacedAt root path last k b := by
  obtain ⟨berth, seating⟩ := h.exists_seating
  have ready := (occurrences_readied found (root :: path)).trans absent
  have before : ∀ {id : StarId} {i : Nat} {content : Slot},
      ((Population.readied a root s).assigned (root :: path)).slot? id i = some content →
        a.slot? id i = some content := by
    intro id i content held
    obtain ⟨t, known, held⟩ := exists_star held
    obtain ⟨u, known'⟩ := exists_star_of_lt (length_readied a root s _ ▸ lt_length known)
    obtain rfl := Option.eq_some_unique (star?_readied found _ known') known
    exact (slot?_eq known' i).trans held
  exact {
    once := seating.occurrences_eq_one ready
    seat := (seating.seat ready).imp_right fun ⟨g, held, rest⟩ => ⟨g, before held, rest⟩
    position := seating.position_eq
    length := seating.length_eq.trans (length_readied a root s _)
    star := fun known => seating.exists_slots (star?_readied found (root :: path) known) }

end Atlas

/-! ## Placing the main world -/

namespace Population

/-- **Placing the main world.** On every finite tree of nested stars with at least one slot at its
root, whatever the slots hold as long as that is not the main world, placing the main world ends,
for every source and every retry limit.  It then occurs once, in one slot or among the satellites of
one gas giant, no other slot has changed, and it is assigned to the root and to the nested stars
that the search went through.

**Proof sketch.** No star is nested below itself, so the way of the search has no more stars than
the chart, and the search ends with a seat.  Seating changes one slot. -/
theorem placeMain_places [Inexhaustible σ] {run : Run σ Atlas} {root : StarId} {s : StarSystem}
    {least : Int} (limit : Int) (tree : run.scene.Rooted root)
    (found : run.scene.star? root = some s) (room : 0 < s.maxOrbits)
    (may : Phase.mainWorld.mayFollow s.phase = true)
    (charted : run.scene.main.profile.InRange least) (absent : run.scene.occurrences = 0) :
    ∃ after path last k, (placeMain root limit : Gen σ Atlas Unit) run = .ok () after ∧
      (if run.scene.main.profile.needsHabitable then run.scene.Pursuit root path last
        else path = [] ∧ last = root) ∧
      run.scene.PlacedAt root path last k after.scene := by
  have regular : s.Regular := by
    cases tree with
    | node found' regular below => exact Option.eq_some_unique found found' ▸ regular
  have capacity := regular.capacity
  have nests : (readied run.scene root s).Nests run.scene.stars.length root := by
    have length : (readied run.scene root s).stars.length = run.scene.stars.length :=
      Atlas.length_readied run.scene root s []
    exact length ▸ (tree.readied found).nests
  obtain ⟨_, after, ran, path, last, k, warnings, placement, -⟩ :=
    (ends_placeMain (σ := σ) limit charted found may nests (by omega)).exists_ok
  exact ⟨after, path, last, k, ran, placement.pursuit found, placement.placedAt found absent⟩

/-- A chart without the main world, which needs a habitable orbit.  On that of the primary star is a
companion, and on that of the companion a gas giant with a ring. -/
def sampleChart : Atlas where
  stars := [
    { name := "Regina", star := ⟨.G, 2, .V⟩, maxOrbits := 5,
      slots := [.empty 0, .undecided, .world { name := "Regina II", orbit := 2, position := 2 },
        .star 1 "Regina Beta" ⟨.K, 0, .V⟩, .undecided] },
    { name := "Regina Beta", star := ⟨.K, 0, .V⟩, orbit := 3, maxOrbits := 3,
      slots := [.undecided, .empty 1,
        .giant { name := "Beta II", size := .large, orbit := 2, satellites := [.own (.ring 1 2)] }] }]
  main := .regina

/-- The companion of the sample is nested in the primary star and nothing is nested in it. -/
lemma rooted_sampleChart : sampleChart.Rooted 0 := by
  refine .node rfl ⟨⟨by decide, by decide⟩, rfl, by decide⟩ fun held => ?_
  have mem := List.mem_of_getElem? held
  simp only [List.mem_cons, reduceCtorEq, Slot.star.injEq, List.not_mem_nil, or_false,
    false_or] at mem
  obtain ⟨rfl, -⟩ := mem
  refine .node rfl ⟨⟨by decide, by decide⟩, rfl, by decide⟩ fun held => ?_
  have mem := List.mem_of_getElem? held
  simp only [List.mem_cons, reduceCtorEq, List.not_mem_nil, or_self] at mem

/-- The search on the sample goes to the companion and no further. -/
lemma pursuit_sampleChart : sampleChart.Pursuit 0 [1] 1 := by
  refine .into (i := 3) rfl rfl rfl rfl rfl (by decide) (.stop rfl rfl fun target held _ => ?_)
  obtain rfl := Int.ofNat_inj.mp target
  cases held

/-- On the sample the main world is placed around the companion and assigned to both stars. -/
theorem placeMain_places_sample : sampleChart.Rooted 0 ∧ sampleChart.occurrences = 0 ∧
    ∃ after k, placeMain 0 10 (⟨⟨(⟨1⟩ : Congruential), []⟩, [], sampleChart⟩ :
        Run Congruential Atlas) = .ok () after ∧
      sampleChart.PlacedAt 0 [1] 1 k after.scene := by
  obtain ⟨after, path, last, k, ran, way, placed⟩ := @placeMain_places Congruential _ _
    ⟨⟨⟨1⟩, []⟩, [], sampleChart⟩ 0 _ _ 10 rooted_sampleChart rfl (by decide) rfl
    World.accepted_regina.inRange rfl
  obtain ⟨rfl, rfl⟩ := pursuit_sampleChart.unique way
  exact ⟨rooted_sampleChart, rfl, after, k, ran, placed⟩

end Population

end Starchart
