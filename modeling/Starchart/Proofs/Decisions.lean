import Mathlib.Data.List.Nodup
import Mathlib.Logic.Relation
import Starchart.Proofs.Bodies

/-!
# Deciding slots

The phases that fill the orbits of a star decide one undecided slot after the other, and never touch
a decided one.  What they put into a slot is rolled for it.

## Main definitions

* `Starchart.StarSystem.Regular`, `Starchart.StarSystem.Sound` — stars as they are built.
* `Starchart.StarSystem.Alike` — stars that differ in their content and progress only.
* `Starchart.Slot.Rolled` — what may be rolled for a slot.
* `Starchart.StarSystem.Decide`, `Starchart.StarSystem.Decisions` — one decision, and several.

## Main results

* `Starchart.StarSystem.Decisions.frame` — decisions change slots alone.
* `Starchart.StarSystem.Decisions.kept_or_rolled` — the history of one slot.
* `Starchart.StarSystem.place_eq` — an undecided orbit takes any body.
* `Starchart.StarSystem.decisions_markEmpties` — marking orbits to stay empty makes decisions.
-/

set_option autoImplicit false

namespace Starchart

/-- A slot counts as undecided when it is. -/
@[simp] lemma Slot.isUndecided_iff {content : Slot} :
    content.isUndecided = true ↔ content = .undecided := by
  cases content <;> simp [Slot.isUndecided]

/-- A world that carries the number of an orbit is stamped already. -/
lemma Slot.stamp_world {w : World} {orbit : Int} (numbered : w.orbit = orbit) :
    (Slot.world w).stamp orbit = .world w := by
  subst numbered
  cases w
  rfl

/-- So is a gas giant. -/
lemma Slot.stamp_giant {g : GasGiant} {orbit : Int} (numbered : g.orbit = orbit) :
    (Slot.giant g).stamp orbit = .giant g := by
  subst numbered
  rfl

namespace StarSystem

/-! ## Stars as they are built -/

/-- A star that has a table column and exactly as many slots as its capacity says. Its zones can be
read, and every orbit up to its capacity is the number of a slot. -/
structure Regular (s : StarSystem) : Prop where
  classified : s.star.Classified
  capacity : s.maxOrbits = s.slots.length
  countable : s.slots.length < 0x8000000000000000

/-- A regular star whose orbits all have numerals, as designations are written with them. -/
structure Sound (s : StarSystem) : Prop extends s.Regular where
  few : s.slots.length ≤ 20

/-- Stars that differ at most in what their slots hold, in their phase and in whether the main world
was assigned to them. -/
structure Alike (s t : StarSystem) : Prop where
  name : t.name = s.name
  star : t.star = s.star
  orbit : t.orbit = s.orbit
  maxOrbits : t.maxOrbits = s.maxOrbits
  length : t.slots.length = s.slots.length
  secondary : t.secondary = s.secondary
  tertiary : t.tertiary = s.tertiary

/-- A regular star has as many slots as its capacity says. -/
lemma Regular.fitted {s : StarSystem} (h : s.Regular) : s.slots.length = s.maxOrbits.toNat := by
  have := h.capacity
  omega

namespace Alike

variable {s t u : StarSystem}

/-- Every star is like itself. -/
lemma refl (s : StarSystem) : s.Alike s :=
  ⟨rfl, rfl, rfl, rfl, rfl, rfl, rfl⟩

/-- Likeness is transitive. -/
lemma trans (h : s.Alike t) (h' : t.Alike u) : s.Alike u where
  name := h'.name.trans h.name
  star := h'.star.trans h.star
  orbit := h'.orbit.trans h.orbit
  maxOrbits := h'.maxOrbits.trans h.maxOrbits
  length := h'.length.trans h.length
  secondary := h'.secondary.trans h.secondary
  tertiary := h'.tertiary.trans h.tertiary

/-- Likeness is symmetric. -/
lemma symm (h : s.Alike t) : t.Alike s :=
  ⟨h.name.symm, h.star.symm, h.orbit.symm, h.maxOrbits.symm, h.length.symm, h.secondary.symm,
    h.tertiary.symm⟩

/-- Stars that are alike have the same companions. -/
lemma companions (h : s.Alike t) : t.companions = s.companions := by
  rw [StarSystem.companions, StarSystem.companions, h.secondary, h.tertiary]

/-- A star like a regular one is regular. -/
lemma regular (h : s.Alike t) (regular : s.Regular) : t.Regular where
  classified := h.star ▸ regular.classified
  capacity := by rw [h.maxOrbits, h.length, regular.capacity]
  countable := by rw [h.length]; exact regular.countable

/-- A star like a sound one is sound. -/
lemma sound (h : s.Alike t) (sound : s.Sound) : t.Sound where
  toRegular := h.regular sound.toRegular
  few := by rw [h.length]; exact sound.few

end Alike

/-- Other content of a slot leaves a star alike. -/
lemma alike_set (s : StarSystem) (i : Nat) (content : Slot) :
    s.Alike { s with slots := s.slots.set i content } :=
  ⟨rfl, rfl, rfl, rfl, List.length_set, rfl, rfl⟩

/-! ## Reading slots -/

section Slots

variable {s : StarSystem}

/-- The slot with a number, where there are as many slots as the capacity says. -/
lemma slotAt?_natCast (fitted : s.slots.length = s.maxOrbits.toNat) (i : Nat) :
    s.slotAt? i = s.slots[i]? := by
  unfold slotAt? inRange
  by_cases lt : i < s.slots.length
  · have : (0 : Int) ≤ i ∧ (i : Int) < s.maxOrbits := by omega
    simp [this]
  · have : ¬(i : Int) < s.maxOrbits := by omega
    simp [this, List.getElem?_eq_none (Nat.le_of_not_lt lt)]

/-- An orbit with content is one of a slot. -/
lemma held_of_slotAt? {orbit : Int} {content : Slot} (held : s.slotAt? orbit = some content) :
    ∃ i : Nat, orbit = i ∧ s.slots[i]? = some content := by
  unfold slotAt? at held
  split at held
  · rename_i inRange
    simp only [StarSystem.inRange, Bool.and_eq_true, decide_eq_true_eq] at inRange
    exact ⟨orbit.toNat, by omega, held⟩
  · cases held

/-- An undecided orbit is one of an undecided slot. -/
lemma held_of_isUndecided {orbit : Int} (free : s.isUndecided orbit = true) :
    ∃ i : Nat, orbit = i ∧ s.slots[i]? = some .undecided := by
  unfold isUndecided at free
  split at free
  · rename_i content held
    rw [Slot.isUndecided_iff.mp free] at held
    exact held_of_slotAt? held
  · cases free

/-- The undecided orbits are the numbers of the undecided slots. -/
lemma isUndecided_iff (fitted : s.slots.length = s.maxOrbits.toNat) {orbit : Int} :
    s.isUndecided orbit = true ↔ ∃ i : Nat, orbit = i ∧ s.slots[i]? = some .undecided := by
  constructor
  · exact held_of_isUndecided
  · rintro ⟨i, rfl, held⟩
    simp [isUndecided, slotAt?_natCast fitted, held, Slot.isUndecided]

/-- The numbered slots of a star. -/
lemma mem_numbered {orbit : Int} {content : Slot} :
    (orbit, content) ∈ s.numbered ↔ ∃ i : Nat, orbit = i ∧ s.slots[i]? = some content := by
  simp only [numbered, number, List.mem_map, Prod.mk.injEq, Prod.exists,
    List.mem_zipIdx_iff_getElem?]
  constructor
  · rintro ⟨c, i, hslot, rfl, rfl⟩
    exact ⟨i, rfl, hslot⟩
  · rintro ⟨i, rfl, hslot⟩
    exact ⟨content, i, hslot, rfl, rfl⟩

/-- The numbers of slots may be left out where they play no part. -/
lemma map_snd_numbered (s : StarSystem) : s.numbered.map Prod.snd = s.slots := by
  rw [numbered, number, List.map_map]
  exact List.zipIdx_map_fst 0 s.slots

/-- No two slots have the same number. -/
lemma nodup_numbered : (s.numbered.map Prod.fst).Nodup := by
  have : s.numbered.map Prod.fst = (List.range' 0 s.slots.length).map Int.ofNat := by
    rw [← List.zipIdx_map_snd, numbered, number, List.map_map, List.map_map]
    rfl
  rw [this]
  exact List.Nodup.map (fun _ _ => Int.ofNat.inj) List.nodup_range'

/-- The undecided orbits are the numbers of the undecided slots. -/
lemma mem_undecidedOrbits {orbit : Int} :
    orbit ∈ s.undecidedOrbits ↔ ∃ i : Nat, orbit = i ∧ s.slots[i]? = some .undecided := by
  simp only [undecidedOrbits, List.mem_map, List.mem_filter, Prod.exists, mem_numbered,
    Slot.isUndecided_iff]
  constructor
  · rintro ⟨_, _, ⟨⟨i, rfl, hslot⟩, rfl⟩, rfl⟩
    exact ⟨i, rfl, hslot⟩
  · rintro ⟨i, rfl, hslot⟩
    exact ⟨i, .undecided, ⟨⟨i, rfl, hslot⟩, rfl⟩, rfl⟩

/-- No undecided orbit is listed twice. -/
lemma nodup_undecidedOrbits : s.undecidedOrbits.Nodup :=
  nodup_numbered.sublist (List.filter_sublist.map _)

/-- There are as many undecided orbits as slots that are undecided. -/
lemma length_undecidedOrbits (s : StarSystem) :
    s.undecidedOrbits.length = s.slots.countP Slot.isUndecided := by
  rw [undecidedOrbits, List.length_map, ← List.countP_eq_length_filter, ← map_snd_numbered,
    List.countP_map]
  rfl

/-- The orbits of gas giants are the numbers of the slots that they hold. -/
lemma mem_giantOrbits {orbit : Int} :
    orbit ∈ s.giantOrbits ↔ ∃ i : Nat, orbit = i ∧ ∃ g, s.slots[i]? = some (.giant g) := by
  simp only [giantOrbits, List.mem_map, List.mem_filter, Prod.exists, mem_numbered]
  constructor
  · rintro ⟨_, content, ⟨⟨i, rfl, hslot⟩, isGiant⟩, rfl⟩
    cases content with
    | giant g => exact ⟨i, rfl, g, hslot⟩
    | _ => cases isGiant
  · rintro ⟨i, rfl, g, hslot⟩
    exact ⟨i, .giant g, ⟨⟨i, rfl, hslot⟩, rfl⟩, rfl⟩

/-- No orbit of a gas giant is listed twice. -/
lemma nodup_giantOrbits : s.giantOrbits.Nodup :=
  nodup_numbered.sublist (List.filter_sublist.map _)

/-- An undecided orbit takes any body that carries its number. -/
lemma place_eq (fitted : s.slots.length = s.maxOrbits.toNat) {i : Nat} {body : Slot}
    (main : String) (free : s.slots[i]? = some .undecided) (stamped : body.stamp i = body) :
    s.place main body i = .ok { s with slots := s.slots.set i body } := by
  have undecided : s.isUndecided i = true := (isUndecided_iff fitted).mpr ⟨i, rfl, free⟩
  rw [place, if_pos undecided, stamped]
  rfl

end Slots

end StarSystem

/-! ## What is rolled for a slot -/

namespace Population

variable {σ : Type} [RandomSource σ] {s t : StarSystem}

/-- Gas giants are rolled by the name of the star alone. -/
lemma rollGiant_congr (alike : s.Alike t) (orbit : Int) :
    (rollGiant t orbit : Roll σ Slot) = rollGiant s orbit := by
  rw [rollGiant, rollGiant, alike.name]

/-- Belts are rolled by the class of the star and the charter of the main world. -/
lemma rollBelt_congr (alike : s.Alike t) {main main' : World}
    (charter : main'.charter = main.charter) (orbit : Int) :
    (rollBelt t orbit main' : Roll σ World) = rollBelt s orbit main :=
  calc (rollBelt t orbit main' : Roll σ World)
    _ = rollBelt t orbit main'.charter := rfl
    _ = rollBelt s orbit main.charter := by rw [charter, rollBelt, rollBelt, alike.star]
    _ = rollBelt s orbit main := rfl

/-- Other worlds are rolled by the name and class of the star and the charter of the main world. -/
lemma rollWorld_congr (alike : s.Alike t) {main main' : World}
    (charter : main'.charter = main.charter) (orbit : Int) :
    (rollWorld t orbit main' : Roll σ World) = rollWorld s orbit main :=
  calc (rollWorld t orbit main' : Roll σ World)
    _ = rollWorld t orbit main'.charter := rfl
    _ = rollWorld s orbit main.charter := by
      rw [charter, rollWorld, rollWorld, alike.star, alike.name]
    _ = rollWorld s orbit main := rfl

end Population

namespace Slot

/-- What the phases before satellites may decide about slot `i` of a star.  Worlds other than belts
are rolled beyond the hot zone only. -/
inductive Rolled (σ : Type) [RandomSource σ] (main : World) (s : StarSystem) (i : Nat) :
    Slot → Prop
  | empty : Rolled σ main s i (.empty i)
  | giant {g : GasGiant} (rolled : (Population.rollGiant s i : Roll σ Slot).CanGive (.giant g)) :
      Rolled σ main s i (.giant g)
  | belt {w : World} (rolled : (Population.rollBelt s i main : Roll σ World).CanGive w) :
      Rolled σ main s i (.world w)
  | world {w : World} (warm : ∀ {zones : Zones}, s.star.zones = .ok zones → zones.hot < i)
      (rolled : (Population.rollWorld s i main : Roll σ World).CanGive w) :
      Rolled σ main s i (.world w)

namespace Rolled

variable {σ : Type} [RandomSource σ] {main main' : World} {s t : StarSystem} {i : Nat}
  {content : Slot}

/-- What is rolled depends on the name and class of the star and on the charter of the main world
alone. -/
lemma congr (h : content.Rolled σ main s i) (alike : s.Alike t)
    (charter : main'.charter = main.charter) : content.Rolled σ main' t i := by
  cases h with
  | empty => exact .empty
  | giant rolled =>
    refine .giant ?_
    rwa [Population.rollGiant_congr alike]
  | belt rolled =>
    refine .belt ?_
    rwa [Population.rollBelt_congr alike charter]
  | world warm rolled =>
    refine .world (fun zoned => warm (alike.star ▸ zoned)) ?_
    rwa [Population.rollWorld_congr alike charter]

/-- A rolled world or belt is founded on a raw one with the number of its slot. -/
lemma exists_raw {w : World} (h : Rolled σ main s i (.world w))
    (classified : s.star.Classified) (lt : i < 20) :
    ∃ raw : World, raw.Raw main ∧ World.Founded σ main s.star raw w ∧ raw.orbit = i ∧
      raw.position = i ∧ raw.isSatellite = false := by
  cases h with
  | belt rolled =>
    obtain ⟨_, isRaw, founded⟩ := (Population.gives_rollBelt main classified i).of_canGive rolled
    exact ⟨_, isRaw, founded, rfl, rfl, rfl⟩
  | world _ rolled =>
    obtain ⟨_, _, _, _, _, -, isRaw, founded, -⟩ :=
      (Population.gives_rollWorld main classified (by omega) (by omega)).of_canGive rolled
    exact ⟨_, isRaw, founded, rfl, rfl, rfl⟩

/-- Nothing but belts is rolled among worlds up to the hot limit of the star. -/
lemma isBelt {w : World} {zones : Zones} (h : Rolled σ main s i (.world w))
    (classified : s.star.Classified) (zoned : s.star.zones = .ok zones)
    (close : i ≤ zones.hot) : w.isBelt = true := by
  cases h with
  | belt rolled =>
    obtain ⟨population, -, founded⟩ :=
      (Population.gives_rollBelt main classified i).of_canGive rolled
    have : w.isBelt = (Population.rawPlanet i Name.belt 0 0 0 population).isBelt := by
      rw [founded.frame]
      rfl
    exact this
  | world warm _ => exact absurd (warm zoned) (Int.not_lt.mpr close)

/-- A rolled gas giant carries the number of its slot and has no satellites yet. -/
lemma giant_facts {g : GasGiant} (h : Rolled σ main s i (.giant g)) (lt : i < 20) :
    g.orbit = i ∧ g.satellites = [] ∧ Name.designation s.name i = .ok g.name := by
  cases h with
  | giant rolled =>
    obtain ⟨_, heq, facts⟩ :=
      (Population.gives_rollGiant (by omega) (by omega)).of_canGive rolled
    injection heq with heq
    exact heq ▸ facts

/-- A body has no satellites when it is rolled. -/
lemma satellites_eq (h : content.Rolled σ main s i) (classified : s.star.Classified)
    (lt : i < 20) (main' : World) {host : Host}
    (hosted : content.host? main' = some host) : host.satellites = [] := by
  cases content with
  | world w =>
    injection hosted with hosted
    obtain ⟨raw, isRaw, founded, -⟩ := h.exists_raw classified lt
    rw [← hosted, Host.satellites, founded.frame]
    exact isRaw.satellites
  | giant g =>
    injection hosted with hosted
    rw [← hosted]
    exact (h.giant_facts lt).2.1
  | main => cases h
  | _ => cases hosted

/-- No companion star, no main world and nothing undecided is rolled. -/
lemma ne_undecided (h : content.Rolled σ main s i) : content ≠ .undecided := by
  cases h <;> nofun

end Rolled

end Slot

/-! ## Decisions -/

namespace StarSystem

/-- One decision: an undecided slot gets what was rolled for it. Every phase before that of the
satellites, the seat of the main world apart, is a sequence of such decisions. -/
inductive Decide (σ : Type) [RandomSource σ] (main : World) (s : StarSystem) : StarSystem → Prop
  | intro {i : Nat} {content : Slot} (free : s.slots[i]? = some .undecided)
      (rolled : content.Rolled σ main s i) :
      Decide σ main s { s with slots := s.slots.set i content }

/-- Decisions one after the other. -/
abbrev Decisions (σ : Type) [RandomSource σ] (main : World) : StarSystem → StarSystem → Prop :=
  Relation.ReflTransGen (Decide σ main)

variable {σ : Type} [RandomSource σ] {main : World} {s t : StarSystem}

/-- A decision leaves a star alike. -/
lemma Decide.alike (h : Decide σ main s t) : s.Alike t := by
  cases h with
  | intro free rolled => exact alike_set s _ _

/-- After a decision, a slot is as before or has just been decided. -/
lemma Decide.kept_or_rolled (h : Decide σ main s t) {i : Nat} {content : Slot}
    (held : s.slots[i]? = some content) :
    t.slots[i]? = some content ∨ content = .undecided ∧
      ∃ after, t.slots[i]? = some after ∧ after.Rolled σ main s i := by
  cases h with
  | @intro j decided free rolled =>
    by_cases same : j = i
    · subst same
      obtain ⟨short, -⟩ := List.getElem?_eq_some_iff.mp held
      rw [free] at held
      injection held with held
      exact .inr ⟨held.symm, decided, List.getElem?_set_self short, rolled⟩
    · exact .inl ((List.getElem?_set_ne same).trans held)

namespace Decisions

/-- Decisions leave a star alike. -/
theorem alike (h : Decisions σ main s t) : s.Alike t := by
  induction h with
  | refl => exact .refl s
  | tail _ step ih => exact ih.trans step.alike

/-- Decisions change nothing but slots. -/
theorem frame (h : Decisions σ main s t) : t = { s with slots := t.slots } := by
  induction h with
  | refl => rfl
  | tail _ step ih =>
    cases step
    rw [ih]

/-- After decisions, a slot is as before, or it was undecided and holds something rolled for it.

**Proof sketch.** By induction on the decisions.  A slot that an earlier one decided is not
undecided any more, so the last decision leaves it alone. -/
theorem kept_or_rolled (h : Decisions σ main s t) {i : Nat} {content : Slot}
    (held : s.slots[i]? = some content) :
    t.slots[i]? = some content ∨ content = .undecided ∧
      ∃ after, t.slots[i]? = some after ∧ after.Rolled σ main s i := by
  induction h with
  | refl => exact .inl held
  | @tail mid last steps step ih =>
    rcases ih with kept | ⟨undecided, after, hafter, rolled⟩
    · rcases step.kept_or_rolled kept with kept | ⟨undecided, after, hafter, rolled⟩
      · exact .inl kept
      · exact .inr ⟨undecided, after, hafter, rolled.congr (alike steps).symm rfl⟩
    · rcases step.kept_or_rolled hafter with kept | ⟨again, -⟩
      · exact .inr ⟨undecided, after, kept, rolled⟩
      · exact absurd again rolled.ne_undecided

end Decisions

/-- Marking an orbit to stay empty is a decision, if it does anything. -/
lemma decisions_markEmpty (main : World) (s : StarSystem) (orbit : Int) :
    Decisions σ main s (s.markEmpty orbit).2 := by
  unfold markEmpty
  split
  · rename_i free
    obtain ⟨i, rfl, held⟩ := held_of_isUndecided free
    exact .single (.intro held .empty)
  · exact .refl

/-- So is marking several. -/
lemma decisions_markEmpties (main : World) (s : StarSystem) (orbits : List Int) :
    Decisions σ main s (s.markEmpties orbits) := by
  induction orbits generalizing s with
  | nil => exact .refl
  | cons orbit rest ih => exact (decisions_markEmpty main s orbit).trans (ih _)

end StarSystem

end Starchart
