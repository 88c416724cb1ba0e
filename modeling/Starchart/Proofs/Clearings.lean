import Starchart.Proofs.Ledger

/-!
# Orbits near companions

A companion on a numbered orbit destabilises the orbits near it, which are cleared when it is attached.
Nothing decided is ever undecided again, so the cleared orbits stay empty for good: of everything that
comes later, the main world alone may take one of them.

## Main definitions

* `Starchart.Orbit.IsNear` — the orbits that a companion destabilises.
* `Starchart.Atlas.Cleared` — charts on which every companion cleared the orbits near it.

## Main results

* `Starchart.Constellation.Joins.cleared` — a companion leaves a cleared chart cleared.
* `Starchart.Generator.walk_cleared` — no body is generated near a companion.
-/

set_option autoImplicit false

namespace Starchart

/-- Whether a companion on `orbit` destabilises another orbit: those from half its distance on, and
the two just beyond it. -/
def Orbit.IsNear (orbit other : Int) : Prop :=
  orbit / 2 < other ∧ other < orbit ∨ other = orbit + 1 ∨ other = orbit + 2

/-! ## Clearing orbits -/

namespace StarSystem

variable {s : StarSystem}

/-- The orbits near a companion are those that it clears. -/
lemma mem_clearNear {orbit other : Int} :
    other ∈ Orbit.span (orbit / 2 + 1) orbit ++ [orbit + 1, orbit + 2] ↔
      Orbit.IsNear orbit other := by
  unfold Orbit.IsNear
  simp only [List.mem_append, Orbit.mem_span, List.mem_cons, List.not_mem_nil, or_false]
  omega

/-- A companion clears the undecided orbits near it. -/
lemma fills_clearNear (fitted : s.slots.length = s.maxOrbits.toNat) (orbit : Int) :
    s.Fills {i : Nat | Orbit.IsNear orbit i ∧ s.slots[i]? = some .undecided}
      (fun i body => body = .empty i) (s.clearNear orbit) := by
  have marked := fills_markEmpties fitted
    (Orbit.span (orbit / 2 + 1) orbit ++ [orbit + 1, orbit + 2])
  simp only [mem_clearNear] at marked
  exact marked

/-- A star has cleared the orbits near a companion. -/
lemma clearNear_ne_undecided (fitted : s.slots.length = s.maxOrbits.toNat) {orbit : Int} {i : Nat}
    (near : Orbit.IsNear orbit i) : (s.clearNear orbit).slots[i]? ≠ some .undecided :=
  markEmpties_ne_undecided fitted _ (mem_clearNear.mpr near)

end StarSystem

/-- On the chart stars have as many slots as their capacity says, and every companion on a numbered
orbit has cleared the orbits near it. -/
structure Atlas.Cleared (a : Atlas) : Prop where
  capacity : ∀ {id : StarId} {s : StarSystem}, a.star? id = some s → s.maxOrbits = s.slots.length
  near : ∀ {id companion : StarId} {s : StarSystem}, a.star? id = some s →
    companion ∈ s.companions → ∃ c, a.star? companion = some c ∧
      (c.orbit ≠ Orbit.contact → c.orbit ≠ Orbit.far → ∀ i : Nat, Orbit.IsNear c.orbit i →
        s.slots[i]? ≠ some .undecided)

namespace Constellation

variable {a b : Atlas} {parent : StarId} {p c p' c' : StarSystem} {orbit : Int} {tertiary : Bool}
  {depth : Depth}

/-- A companion that is attached on a numbered orbit clears the orbits near it. -/
lemma Attachment.clears_near {id : StarId} (h : Attachment p c id orbit p' c')
    (fitted : p.slots.length = p.maxOrbits.toNat) (outside : c'.orbit ≠ Orbit.contact)
    (close : c'.orbit ≠ Orbit.far) {i : Nat} (near : Orbit.IsNear c'.orbit i) :
    p'.slots[i]? ≠ some .undecided := by
  cases h with
  | contact => exact absurd rfl outside
  | far => exact absurd rfl close
  | displaced => exact absurd rfl close
  | beyond => exact StarSystem.clearNear_ne_undecided fitted near
  | @placed j outside near' slot free =>
    exact StarSystem.clearNear_ne_undecided (List.length_set.trans fitted) near

/-- What is undecided about the parent after a companion was attached was undecided before. -/
lemma Attachment.undecided {id : StarId} (h : Attachment p c id orbit p' c') {i : Nat}
    (free : p'.slots[i]? = some .undecided) : p.slots[i]? = some .undecided := by
  rcases h.slot free with kept | wrong | ⟨wrong, -⟩
  · exact kept
  · cases wrong
  · cases wrong

/-- What was cleared near a companion stays so when another star joins the chart. -/
lemma near_joined (attached : Attachment p c a.stars.length orbit p' c') (cleared : a.Cleared)
    (found : a.star? parent = some p) {id companion : StarId} {s t : StarSystem}
    (known : a.star? id = some s) (own : companion ∈ s.companions)
    (kept : ∀ i : Nat, t.slots[i]? = some .undecided → s.slots[i]? = some .undecided) :
    ∃ d, (joined a parent (linked p' tertiary a.stars.length) c').star? companion = some d ∧
      (d.orbit ≠ Orbit.contact → d.orbit ≠ Orbit.far → ∀ i : Nat, Orbit.IsNear d.orbit i →
        t.slots[i]? ≠ some .undecided) := by
  obtain ⟨d, foundD, clear⟩ := cleared.near known own
  obtain ⟨e, foundE, orbit_eq⟩ :=
    exists_orbit_joined attached found foundD
  refine ⟨e, foundE, fun outside close i near free => ?_⟩
  rw [orbit_eq] at outside close near
  exact clear outside close i near (kept i free)

/-- A companion leaves a cleared chart cleared.

**Proof sketch.** The new star has no companions.  Its parent keeps what was cleared for the older
ones, and cleared the orbits near the new one; all other stars stay as they are, and no star
moves. -/
theorem Joins.cleared (h : Joins parent tertiary depth a b) (cleared : a.Cleared) : b.Cleared := by
  cases h with
  | @intro p p' c c' orbit found separated rolled attached =>
  have capacity := cleared.capacity found
  have lt := Atlas.lt_length found
  have alike := attached.alike
  obtain ⟨-, slots, -, -⟩ := linked_eq p' tertiary a.stars.length
  have frame := attached.companion_eq
  constructor
  · intro id s after
    rcases star?_joined_cases lt after with ⟨rfl, rfl⟩ | known | ⟨rfl, rfl⟩
    · have capacity' : p'.maxOrbits = p'.slots.length := by
        rw [alike.maxOrbits, alike.length, capacity]
      rw [slots]
      cases tertiary <;> exact capacity'
    · exact cleared.capacity known
    · rw [frame]
      exact rolled.sound.capacity
  · intro id companion s after own
    rcases star?_joined_cases lt after with ⟨rfl, rfl⟩ | known | ⟨rfl, rfl⟩
    · rcases of_mem_companions_linked own with mine | rfl
      · rw [alike.companions] at mine
        refine near_joined attached cleared found found mine fun i free => ?_
        rw [slots] at free
        exact attached.undecided free
      · refine ⟨c', star?_joined_last _ _ _ _, fun outside close i near => ?_⟩
        rw [slots]
        exact attached.clears_near (by omega) outside close near
    · exact near_joined attached cleared found known own fun _ free => free
    · obtain ⟨-, -, secondary, tertiary, -⟩ := rolled.fields
      rw [frame] at own
      simp [StarSystem.companions, secondary, tertiary] at own

/-- A primary star alone has no companions. -/
lemma IsPrimary.cleared {s : StarSystem} (h : IsPrimary s) (main : World) :
    (⟨[s], main⟩ : Atlas).Cleared where
  capacity found := (h.fresh main found).sound.capacity
  near {id companion t} found own := by
    obtain rfl : s = t := by
      obtain ⟨lt, same⟩ := List.getElem?_eq_some_iff.mp found
      simpa using same
    obtain ⟨-, -, -, secondary, tertiary, -⟩ := h.fields
    simp [StarSystem.companions, secondary, tertiary] at own

/-- Companions of the primary star leave a cleared chart cleared. -/
lemma Outer.cleared (h : Outer parent tertiary a b) (cleared : a.Cleared) : b.Cleared := by
  cases h with
  | single joins => exact joins.cleared cleared
  | nested joins found far again => exact again.cleared (joins.cleared cleared)

/-- On a built chart every companion has cleared the orbits near it. -/
theorem Built.cleared {main : World} (h : Built main a) : a.Cleared := by
  cases h with
  | single primary => exact primary.cleared main
  | double primary secondary => exact secondary.cleared (primary.cleared main)
  | triple primary secondary tertiary =>
    exact tertiary.cleared (secondary.cleared (primary.cleared main))

end Constellation

/-! ## Generated systems -/

namespace Generator

variable {σ : Type} [RandomSource σ]

/-- Generating a system keeps what is decided on the chart of its stars, unless the main world takes
its slot, whatever the main world is like.

**Proof sketch.** The stars that are built are the chart to be told about. What follows up to the
population reads and records only, and populating a built chart keeps what is decided there. -/
lemma keeps_generate (limit seed : Int) (dice : Dice σ) (journal : Journal) (main : World) :
    (generate limit seed : Gen σ Atlas StarId).Yields ⟨dice, journal, ⟨[], main⟩⟩
      fun primary after => primary = 0 ∧ ∃ a place,
        Constellation.Built (prepare main) a ∧ a.Keeps place after.scene := by
  rw [generate, Gen.yields_bind, Gen.yields_changeMain, Gen.yields_bind, Gen.yields_main,
    Gen.yields_bind]
  have built : (Constellation.build (prepare main).profile.starBonus true none :
      Gen σ Atlas StarId).Ends ⟨dice, journal, ⟨[], prepare main⟩⟩ fun primary after =>
        primary = 0 ∧ Constellation.Built (prepare main) after.scene :=
    Constellation.ends_build _ true none rfl
  intro primary mid ran
  obtain ⟨rfl, isBuilt⟩ := built.of_ok ran
  rw [Gen.yields_bind, Gen.yields_ofExcept]
  intro profile _
  rw [Gen.yields_bind, Gen.yields_star]
  intro s _
  rw [Gen.yields_bind, Gen.yields_record, Gen.yields_bind]
  intro _ after populated
  rw [Gen.yields_pure]
  obtain ⟨place, keeps⟩ :=
    Population.exists_keeps_of_populate (by exact isBuilt.fitted rfl) populated
  exact ⟨rfl, mid.scene, place, isBuilt, keeps⟩

section Populated

variable {a b : Atlas} {place : Option (StarId × Nat)} {id companion : StarId} {s t c : StarSystem}

/-- What a slot holds lasts, unless the main world takes it. -/
lemma lasts_of_keeps (keeps : a.Keeps place b) (known : a.star? id = some s)
    (found : b.star? id = some t) {i : Nat} {before after : Slot}
    (held : s.slots[i]? = some before) (held' : t.slots[i]? = some after) :
    before.Lasts after ∨ after = .main := by
  obtain ⟨last, kept, outcome⟩ := keeps.slot ((Atlas.slot?_eq known i).trans held)
  obtain rfl := Option.eq_some_unique kept ((Atlas.slot?_eq found i).trans held')
  exact outcome.imp_right And.right

/-- A decided slot of a built star holds an empty mark or a companion from then on, unless the main
world takes it. -/
lemma content_of_lasts {i : Nat} {before after : Slot} (barren : before.Barren a s i)
    (decided : before ≠ .undecided) (alike : s.Alike t) (lasts : before.Lasts after ∨ after = .main) :
    after = .empty i ∨
      (∃ other ∈ t.companions, ∃ name star, after = .star other name star) ∨ after = .main := by
  rcases lasts with lasts | rfl
  · cases barren with
    | undecided => exact absurd rfl decided
    | empty =>
      cases lasts
      exact .inl rfl
    | @star other name star _ own =>
      cases lasts
      exact .inr (.inl ⟨other, alike.companions.symm ▸ own, name, star, rfl⟩)
  · exact .inr (.inr rfl)

/-- The slot of a companion holds it from then on, unless the main world takes it.

**Proof sketch.** A companion of a fresh star lodges in the slot of its orbit, which is there since
the orbit is in range, and is not contact. It holds the companion before the population, as it
cannot hold the main world yet, and keeps it unless the main world takes it. -/
lemma slotAt?_companion (keeps : a.Keeps place b) (known : a.star? id = some s)
    (found : b.star? id = some t) (alike : s.Alike t) (fresh : a.Fresh id s)
    (foundC : a.star? companion = some c) (own : companion ∈ s.companions)
    (outside : c.orbit ≠ Orbit.contact) (inRange : t.inRange c.orbit = true) :
    t.slotAt? c.orbit = some (.star companion c.name c.star) ∨
      t.slotAt? c.orbit = some .main := by
  simp only [StarSystem.inRange, Bool.and_eq_true, decide_eq_true_eq] at inRange
  obtain ⟨i, orbit⟩ := Int.eq_ofNat_of_zero_le inRange.1
  have capacity : t.maxOrbits = t.slots.length := by
    rw [alike.maxOrbits, alike.length, fresh.sound.capacity]
  have pos : 0 < i := by
    unfold Orbit.contact at outside
    omega
  have lt : i < t.slots.length := by omega
  have held : t.slots[i]? = some t.slots[i] := List.getElem?_eq_getElem lt
  obtain ⟨c', foundC', lodged⟩ := fresh.lodged own
  obtain rfl := Option.eq_some_unique foundC foundC'
  rw [orbit, StarSystem.slotAt?_natCast (by omega), held]
  rcases lodged i orbit pos (alike.length ▸ lt) with before | before
  · rcases lasts_of_keeps keeps known found before held with kept | taken
    · generalize t.slots[i] = content at kept
      cases kept
      exact .inl rfl
    · exact .inr (congrArg some taken)
  · exact absurd before (fresh.slots_ne_main i)

/-- A companion of a built star, on the chart that was populated: the orbits near it hold empty
marks, companions of the star or the main world, and its own orbit holds it or the main world.

**Proof sketch.** When the stars have been built, none of these orbits is undecided: those near the
companion are cleared or hold another one, and it stands in its own slot.  What is decided lasts,
unless the main world takes the slot. -/
lemma exists_cleared {main : World} (built : Constellation.Built main a) (keeps : a.Keeps place b)
    (known : a.star? id = some s) (found : b.star? id = some t) (own : companion ∈ t.companions) :
    ∃ c, b.star? companion = some c ∧ (c.orbit ≠ Orbit.contact → c.orbit ≠ Orbit.far →
      (∀ (i : Nat) (content : Slot), t.slots[i]? = some content → Orbit.IsNear c.orbit i →
        content = .empty i ∨
          (∃ other ∈ t.companions, ∃ name star, content = .star other name star) ∨
          content = .main) ∧
      (t.inRange c.orbit = true → t.slotAt? c.orbit = some (.star companion c.name c.star) ∨
        t.slotAt? c.orbit = some .main)) := by
  obtain ⟨t', found', alike⟩ := keeps.star known
  obtain rfl := Option.eq_some_unique found found'
  have fresh := built.fresh known
  have mine : companion ∈ s.companions := alike.companions ▸ own
  obtain ⟨c, foundC, clear⟩ := built.cleared.near known mine
  obtain ⟨d, foundD, alikeC⟩ := keeps.star foundC
  refine ⟨d, foundD, fun outside close => ?_⟩
  rw [alikeC.orbit] at outside close ⊢
  constructor
  · intro i content held near
    have lt : i < s.slots.length := alike.length ▸ (List.getElem?_eq_some_iff.mp held).1
    have before : s.slots[i]? = some s.slots[i] := List.getElem?_eq_getElem lt
    refine content_of_lasts (fresh.slots before) (fun free => ?_) alike
      (lasts_of_keeps keeps known found before held)
    exact clear outside close i near (before.trans (congrArg some free))
  · rw [alikeC.name, alikeC.star]
    exact slotAt?_companion keeps known found alike fresh foundC mine outside

end Populated

/-- **No body is generated near a companion.**  Take any star of a generated system and any of its
companions that has a numbered orbit, be it one of a slot or one past the slots of the star.  The
orbits from half the distance of the companion on, and the two just beyond it, hold empty marks,
companions of the star or the main world, but never a generated world, belt or gas giant.  The slot
of the companion itself, if the star has one, holds the companion or the main world.

**Proof sketch.** The orbits near a companion are cleared when it joins the chart. Populating keeps
what is decided, apart from the slot that the main world takes, so that no body is generated
there. -/
theorem walk_cleared {limit seed : Int} {main : World} {dice : Dice σ} {journal : Journal}
    {primary : StarId} {run : Run σ Atlas}
    (ran : generate limit seed ⟨dice, journal, ⟨[], main⟩⟩ = .ok primary run) :
    ∃ t, run.scene.tree primary = .ok t ∧ ∀ s ∈ t.walk, ∀ companion ∈ s.companions,
      ∃ c, run.scene.star? companion = some c ∧
        (c.orbit ≠ Orbit.contact → c.orbit ≠ Orbit.far →
          (∀ (i : Nat) (content : Slot), s.slots[i]? = some content → Orbit.IsNear c.orbit i →
            content = .empty i ∨
              (∃ other ∈ s.companions, ∃ name star, content = .star other name star) ∨
              content = .main) ∧
          (s.inRange c.orbit = true → s.slotAt? c.orbit = some (.star companion c.name c.star) ∨
            s.slotAt? c.orbit = some .main)) := by
  obtain ⟨rfl, a, place, built, keeps⟩ := keeps_generate limit seed dice journal main _ _ ran
  have spans : run.scene.Spans (some 0) 0 run.scene.stars.length := by
    rw [keeps.length]
    refine built.spans.congr fun _ _ known => ?_
    obtain ⟨t, found, alike⟩ := keeps.star known
    exact ⟨t, found, alike.secondary, alike.tertiary⟩
  obtain ⟨t, tree, walk⟩ := Atlas.exists_tree spans
  refine ⟨t, tree, fun s hs companion own => ?_⟩
  rw [walk] at hs
  obtain ⟨id, found⟩ := List.getElem?_of_mem hs
  obtain ⟨before, known⟩ := Atlas.exists_star_of_lt (keeps.length ▸ Atlas.lt_length found)
  exact exists_cleared built keeps known found own

/-- No body is generated near a companion in the system of a main world of its kind. -/
theorem walk_cleared_regina : ∃ primary run t,
    generate 10 1 (⟨⟨(⟨1⟩ : Congruential), []⟩, [], ⟨[], .regina⟩⟩ : Run Congruential Atlas) =
      .ok primary run ∧ run.scene.tree primary = .ok t ∧
      ∀ s ∈ t.walk, ∀ companion ∈ s.companions, ∃ c, run.scene.star? companion = some c ∧
        (c.orbit ≠ Orbit.contact → c.orbit ≠ Orbit.far →
          (∀ (i : Nat) (content : Slot), s.slots[i]? = some content → Orbit.IsNear c.orbit i →
            content = .empty i ∨
              (∃ other ∈ s.companions, ∃ name star, content = .star other name star) ∨
              content = .main) ∧
          (s.inRange c.orbit = true → s.slotAt? c.orbit = some (.star companion c.name c.star) ∨
            s.slotAt? c.orbit = some .main)) := by
  obtain ⟨run, last, k, ran, -⟩ :=
    exists_generated World.accepted_regina 10 1 ⟨(⟨1⟩ : Congruential), []⟩ []
  obtain ⟨t, tree, cleared⟩ := walk_cleared ran
  exact ⟨0, run, t, ran, tree, cleared⟩

end Generator

end Starchart
