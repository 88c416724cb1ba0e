import Starchart.Proofs.Fresh
import Starchart.Proofs.Phases

/-!
# The arrival of the main world

As long as the main world is not seated, a sound chart does not have it anywhere.  Seating it puts
it into one place, around the primary star or around a companion in one of the slots of the primary
star, and the chart stays sound.

## Main definitions

* `Starchart.Atlas.NearBare` — charts on which near companions have undecided slots only.
* `Starchart.Atlas.Arrives` — what seating the main world does to a chart that was seeded.

## Main results

* `Starchart.Atlas.sound_of_fresh` — a fresh chart is sound.
* `Starchart.Atlas.Seating.sound` — a sound chart stays sound when the main world is seated.
* `Starchart.Population.ends_arrival` — the main world arrives on a chart that was seeded.
-/

set_option autoImplicit false

namespace Starchart

variable {σ : Type} [RandomSource σ]

/-! ## Charts without the main world -/

/-- A slot without the main world is without it on any chart. -/
lemma Slot.mains_congr {main : World} {content : Slot} (none : content.mains main = 0)
    (main' : World) : content.mains main' = 0 := by
  cases content with
  | main => exact absurd none (Nat.ne_of_gt (mains_main_pos main))
  | _ => exact none

/-- Nothing but the main world itself depends on where that is: what stands in a slot without the
main world stands there on any chart with the same charter, where no star moves.

**Proof sketch.** By cases on the content. A slot without the main world has no satellite that is
the main world either, and all other satellites are rolled from the charter alone. A companion
stands in its slot by its orbit, which does not move. -/
lemma Slot.Stands.of_mains_eq_zero {a b : Atlas} {s t : StarSystem} {i : Nat} {content : Slot}
    (h : content.Stands σ a s i) (none : content.mains a.main = 0)
    (charter : b.main.charter = a.main.charter) (alike : s.Alike t)
    (kept : ∀ {id : StarId} {c : StarSystem}, a.star? id = some c →
      ∃ d, b.star? id = some d ∧ d.orbit = c.orbit) : content.Stands σ b t i := by
  -- satellites other than the main world depend on the charter alone
  have moons : ∀ {ms : List (Moon World)}, ms.countP Moon.isMain = 0 →
      (∀ m ∈ ms, m.Fits σ a.main s.star i) → ∀ m ∈ ms, m.Fits σ b.main t.star i := by
    intro ms noMain fits m hm
    cases m with
    | own w => exact alike.star ▸ (fits _ hm).own_congr charter
    | main => exact absurd rfl (List.countP_eq_zero.mp noMain _ hm)
  cases h with
  | undecided => exact .undecided
  | empty => exact .empty
  | world rolled fits => exact .world (rolled.congr alike charter) (moons none fits)
  | giant rolled fits => exact .giant (rolled.congr alike charter) (moons none fits)
  | main => exact absurd none (Nat.ne_of_gt (mains_main_pos _))
  | star own found orbit outside clear =>
    obtain ⟨d, found', orbit'⟩ := kept found
    exact .star (alike.companions ▸ own) found' (orbit'.trans orbit) outside (alike.star ▸ clear)

namespace Atlas

variable {a b : Atlas} {limit : Int} {id last : StarId} {s : StarSystem} {k : Nat} {berth : Berth}

/-- On a chart without the main world, no slot has it. -/
lemma Sound.mains_eq_zero (sound : a.Sound σ none) {i : Nat} {content : Slot}
    (found : a.star? id = some s) (held : s.slots[i]? = some content) :
    content.mains a.main = 0 := sound.mains found held

/-- A fresh chart is sound and without the main world. -/
theorem sound_of_fresh (charted : a.main.profile.InRange (leastSize a.main.isSatellite))
    (fresh : ∀ {id : StarId} {s : StarSystem}, a.star? id = some s → a.Fresh id s) :
    a.Sound σ none where
  charted := charted
  stars found := (fresh found).sound
  slots found held := by
    cases (fresh found).slots held with
    | undecided => exact .undecided
    | empty => exact .empty
    | star own found' orbit outside clear => exact .star own found' orbit outside clear
  lodged found own := (fresh found).lodged own
  mains found held := by
    cases (fresh found).slots held <;> rfl

/-- Steps on a chart without the main world do not change it. -/
lemma Reaches.main_eq (h : Reaches σ limit a b) (start : a.Sound σ none) : b.main = a.main := by
  induction h with
  | refl => rfl
  | tail steps step ih =>
    have before := Reaches.sound steps start
    rcases (step.grown before).main with same | ⟨_, _, _, found, held, _⟩
    · exact same.trans ih
    · exact absurd (before.mains_eq_zero found held) (Nat.ne_of_gt (Slot.mains_main_pos _))

/-! ## What seating changes -/

namespace Seating

/-- Seating the main world changes one slot of one star.

**Proof sketch.** Both ways of seating set one slot of one star: to the main world itself, or to the
gas giant with one more moon. Which of the two it is makes no difference to the other slots, so that
this is shown for any content. -/
lemma exists_slots (h : a.Seating σ last k berth b) (found : a.star? id = some s) :
    ∃ slots, b.star? id = some { s with slots := slots } ∧ slots.length = s.slots.length ∧
      ∀ i, ¬(id = last ∧ i = k) → slots[i]? = s.slots[i]? := by
  -- in either case the star `last` gets some content in slot `k`
  have change : ∀ {t : StarSystem} (content : Slot) (main : World), a.star? last = some t →
      ∃ slots, (⟨(a.setStar last { t with slots := t.slots.set k content }).stars, main⟩ :
          Atlas).star? id = some { s with slots := slots } ∧ slots.length = s.slots.length ∧
        ∀ i, ¬(id = last ∧ i = k) → slots[i]? = s.slots[i]? := by
    intro t content main found'
    by_cases same : id = last
    · subst same
      obtain rfl := Option.eq_some_unique found found'
      refine ⟨s.slots.set k content, star?_setStar_self found _, List.length_set, ?_⟩
      exact fun i other => List.getElem?_set_ne fun here => other ⟨rfl, here.symm⟩
    · refine ⟨s.slots, ?_, rfl, fun _ _ => rfl⟩
      exact (star?_setStar_of_ne same _).trans found
  cases h with
  | inSlot found' held surveyed => exact change _ _ found'
  | asMoon found' held free outside surveyed => exact change _ _ found'

/-- Seating the main world adds no stars. -/
lemma length_eq (h : a.Seating σ last k berth b) : b.stars.length = a.stars.length := by
  cases h <;> exact length_setStar _

/-- Seating the main world changes neither its charter nor its satellites, and it stays the main
world. -/
lemma main_eq (h : a.Seating σ last k berth b) : b.main.charter = a.main.charter ∧
    b.main.satellites = a.main.satellites ∧ b.main.isMain = a.main.isMain := by
  cases h <;> exact ⟨rfl, rfl, rfl⟩

/-- No star moves when the main world is seated. -/
lemma exists_orbit (h : a.Seating σ last k berth b) {c : StarSystem} (found : a.star? id = some c) :
    ∃ d, b.star? id = some d ∧ d.orbit = c.orbit := by
  obtain ⟨slots, found', -⟩ := h.exists_slots found
  exact ⟨_, found', rfl⟩

/-- The main world knows the orbit of the star at which it is seated. -/
lemma position_eq (h : a.Seating σ last k berth b) : b.main.position = k := by
  cases h <;> rfl

/-- The slot in which the main world is seated holds it. -/
lemma slot_eq (h : a.Seating σ last k .slot b) : b.slot? last k = some .main := by
  cases h with
  | @inSlot s content astro found held surveyed =>
    have after := star?_setStar_self found { s with slots := s.slots.set k .main }
    exact (slot?_eq after k).trans
      (List.getElem?_set_self (List.getElem?_eq_some_iff.mp held).1)

/-- The gas giant around which the main world is seated has it as a moon. -/
lemma exists_giant (h : a.Seating σ last k .moon b) : ∃ g g' : GasGiant,
    a.slot? last k = some (.giant g) ∧ b.slot? last k = some (.giant g') ∧
      .main ∈ g'.satellites ∧ b.main.isSatellite = true := by
  cases h with
  | @asMoon s g orbit astro found held free outside surveyed =>
    have after := star?_setStar_self found { s with
      slots := s.slots.set k (.giant { g with satellites := g.satellites ++ [.main] }) }
    refine ⟨g, _, (slot?_eq found k).trans held, (slot?_eq after k).trans
      (List.getElem?_set_self (List.getElem?_eq_some_iff.mp held).1), ?_, rfl⟩
    exact List.mem_append_right _ List.mem_cons_self

/-- A companion stays lodged when the main world is seated, unless that takes its slot.

**Proof sketch.** A companion is lodged in the slot of its orbit, and only the slot that the main
world was seated in has changed. If that is the one, the main world has taken it, or it held a gas
giant, where no companion could be. -/
lemma lodges (h : a.Seating σ last k berth b) {t : StarSystem} {companion : StarId}
    (found : a.star? id = some s) (after : b.star? id = some t)
    (lodged : a.Lodges s companion) : b.Lodges t companion := by
  obtain ⟨c, foundC, stands⟩ := lodged
  obtain ⟨slotsC, foundC', -⟩ := h.exists_slots foundC
  obtain ⟨slots, after', length, others⟩ := h.exists_slots found
  obtain rfl := Option.eq_some_unique after' after
  refine ⟨_, foundC', fun i orbit outside lt => ?_⟩
  have stands := stands i orbit outside (length ▸ lt)
  by_cases here : id = last ∧ i = k
  · obtain ⟨rfl, rfl⟩ := here
    cases berth with
    | slot => exact .inr ((slot?_eq after i).symm.trans h.slot_eq)
    | moon =>
      -- a gas giant is no companion
      obtain ⟨g, -, held, -⟩ := h.exists_giant
      rw [slot?_eq found] at held
      rw [held] at stands
      rcases stands with same | same <;> cases same
  · exact (others i here).symm ▸ stands

/-- A slot without the main world keeps what stands there when the main world is seated. -/
lemma stands (h : a.Seating σ last k berth b) (sound : a.Sound σ none) {t : StarSystem} {i : Nat}
    {content : Slot} (found : a.star? id = some s) (held : s.slots[i]? = some content)
    (alike : s.Alike t) : content.Stands σ b t i :=
  (sound.slots found held).of_mains_eq_zero (sound.mains_eq_zero found held) h.main_eq.1 alike
    fun known => h.exists_orbit known

/-- The slot where the main world is seated holds it, or the gas giant that was there before and has
it as a moon.

**Proof sketch.** In a slot of its own the main world has no satellites yet, so it is the one main
world there. As a moon it joins the satellites of a gas giant that had none of it, since nothing
held the main world before; what the giant was rolled as and what its other moons fit is
unchanged. -/
lemma exists_seat (h : a.Seating σ last k berth b) (sound : a.Sound σ none)
    (bare : a.main.satellites = []) :
    ∃ s t content after, a.star? last = some s ∧ s.slots[k]? = some content ∧
      b.star? last = some t ∧ t.slots[k]? = some after ∧ after.Stands σ b t k ∧
      after.mains b.main = 1 ∧ (after = .main ∨ ∃ g, content = .giant g) := by
  have seating := h
  cases h with
  | inSlot found held surveyed =>
    have lt := (List.getElem?_eq_some_iff.mp held).1
    refine ⟨_, _, _, .main, found, held, star?_setStar_self found _, List.getElem?_set_self lt,
      .main rfl rfl ?_, ?_, .inl rfl⟩
    · rw [bare]
      exact fun m hm => absurd hm List.not_mem_nil
    · simp only [Slot.mains, bare, List.countP_nil]
  | @asMoon s g orbit astro found held free outside surveyed =>
    have lt := (List.getElem?_eq_some_iff.mp held).1
    have none := sound.mains_eq_zero found held
    have alike : s.Alike { s with
        slots := s.slots.set k (.giant { g with satellites := g.satellites ++ [.main] }) } :=
      ⟨rfl, rfl, rfl, rfl, List.length_set, rfl, rfl⟩
    refine ⟨_, _, _, _, found, held, star?_setStar_self found _, List.getElem?_set_self lt, ?_, ?_,
      .inr ⟨g, rfl⟩⟩
    · cases seating.stands sound found held alike with
      | giant rolled fits =>
        refine .giant rolled fun m hm => ?_
        rcases List.mem_append.mp hm with old | new
        · exact fits m old
        · rw [List.mem_singleton.mp new]
          exact .main rfl rfl
    · simp only [Slot.mains] at none ⊢
      rw [List.countP_append, none]
      rfl

/-- A sound chart stays sound when the main world is seated.

**Proof sketch.** All slots but one are as before, and what stands there does not depend on the main
world.  The remaining slot holds the main world, or a gas giant with it as its last moon. -/
theorem sound (h : a.Seating σ last k berth b) (sound : a.Sound σ none)
    (bare : a.main.satellites = []) : b.Sound σ (some (last, k)) := by
  have before : ∀ {id : StarId} {t : StarSystem}, b.star? id = some t → ∃ s, a.star? id = some s ∧
      s.Alike t ∧ ∀ i, ¬(id = last ∧ i = k) → t.slots[i]? = s.slots[i]? := by
    intro id t found
    obtain ⟨s, known⟩ := exists_star_of_lt (h.length_eq ▸ lt_length found)
    obtain ⟨slots, found', length, others⟩ := h.exists_slots known
    obtain rfl := Option.eq_some_unique found found'
    exact ⟨_, known, ⟨rfl, rfl, rfl, rfl, length, rfl, rfl⟩, others⟩
  obtain ⟨s₀, t₀, content₀, after₀, -, -, found₀, held₀, stands₀, mains₀, -⟩ :=
    h.exists_seat sound bare
  -- either it is the slot where the main world was seated, or it is as before
  have slot : ∀ {id : StarId} {t : StarSystem} {i : Nat} {content : Slot}, b.star? id = some t →
      t.slots[i]? = some content → content.Stands σ b t i ∧
        content.mains b.main = if some (last, k) = some (id, i) then 1 else 0 := by
    intro id t i content found held
    by_cases here : id = last ∧ i = k
    · obtain ⟨rfl, rfl⟩ := here
      obtain rfl := Option.eq_some_unique found₀ found
      obtain rfl := Option.eq_some_unique held₀ held
      exact ⟨stands₀, by rw [mains₀, if_pos rfl]⟩
    · obtain ⟨s, known, alike, others⟩ := before found
      rw [others i here] at held
      have elsewhere : some (last, k) ≠ some (id, i) := by
        intro same
        injection same with same
        injection same with same same'
        exact here ⟨same.symm, same'.symm⟩
      refine ⟨h.stands sound known held alike, ?_⟩
      rw [if_neg elsewhere]
      exact Slot.mains_congr (sound.mains_eq_zero known held) b.main
  exact {
    lodged := fun found own => by
      obtain ⟨s, known, alike, -⟩ := before found
      exact h.lodges known found (sound.lodged known (alike.companions ▸ own))
    charted := by
      have profile : b.main.profile = a.main.profile := (congrArg World.profile h.main_eq.1 :)
      rw [profile]
      cases h with
      | inSlot => exact sound.charted
      | asMoon =>
        have least : leastSize true ≤ leastSize a.main.isSatellite := by
          cases a.main.isSatellite <;> decide
        exact sound.charted.mono least
    stars := fun found => by
      obtain ⟨s, known, alike, -⟩ := before found
      exact alike.sound (sound.stars known)
    slots := fun found held => (slot found held).1
    mains := fun found held => (slot found held).2 }

end Seating

/-! ## The way to the seat -/

/-- A chart that differs from one without the main world in phases and assignments only is sound as
well.

**Proof sketch.** Every star of the later chart is alike to one of the earlier chart with the same
slots, so each clause is read there. Only where a body tells about the main world do the two charts
differ, and nothing in a slot holds it. -/
lemma Sound.of_slots (sound : a.Sound σ none) (length : b.stars.length = a.stars.length)
    (charter : b.main.charter = a.main.charter) (flag : b.main.isSatellite = a.main.isSatellite)
    (star : ∀ {id : StarId} {s : StarSystem}, a.star? id = some s →
      ∃ t, b.star? id = some t ∧ s.Alike t ∧ t.slots = s.slots) : b.Sound σ none := by
  have before : ∀ {id : StarId} {t : StarSystem}, b.star? id = some t →
      ∃ s, a.star? id = some s ∧ s.Alike t ∧ t.slots = s.slots := by
    intro id t found
    obtain ⟨s, known⟩ := exists_star_of_lt (length ▸ lt_length found)
    obtain ⟨u, found', alike, slots⟩ := star known
    obtain rfl := Option.eq_some_unique found found'
    exact ⟨_, known, alike, slots⟩
  exact {
    charted := by
      have profile : b.main.profile = a.main.profile := (congrArg World.profile charter :)
      rw [profile, flag]
      exact sound.charted
    stars := fun found => by
      obtain ⟨s, known, alike, -⟩ := before found
      exact alike.sound (sound.stars known)
    slots := fun found held => by
      obtain ⟨s, known, alike, slots⟩ := before found
      rw [slots] at held
      refine (sound.slots known held).of_mains_eq_zero (sound.mains_eq_zero known held) charter
        alike fun known' => ?_
      obtain ⟨d, found', alike', -⟩ := star known'
      exact ⟨d, found', alike'.orbit⟩
    lodged := fun found own => by
      obtain ⟨s, known, alike, slots⟩ := before found
      obtain ⟨c, foundC, stands⟩ := sound.lodged known (alike.companions ▸ own)
      obtain ⟨d, foundD, alike', -⟩ := star foundC
      refine ⟨d, foundD, ?_⟩
      rwa [alike'.orbit, alike'.name, alike'.star, slots]
    mains := fun found held => by
      obtain ⟨s, known, -, slots⟩ := before found
      rw [slots] at held
      exact Slot.mains_congr (sound.mains_eq_zero known held) b.main }

/-- A star of the chart on which the search ends. -/
lemma star?_readied (found : a.star? id = some s) (ids : List StarId) {other : StarId}
    {u : StarSystem} (known : a.star? other = some u) :
    ((Population.readied a id s).assigned ids).star? other = some { u with
      hasMain := u.hasMain || decide (other ∈ ids)
      phase := if other = id then some .mainWorld else u.phase } := by
  rw [star?_assigned]
  by_cases same : other = id
  · subst same
    obtain rfl := Option.eq_some_unique found known
    have ready : (Population.readied a other s).star? other =
        some { s with phase := some .mainWorld } := star?_setStar_self found _
    rw [ready, if_pos rfl]
    rfl
  · have ready : (Population.readied a id s).star? other = some u :=
      (star?_setStar_of_ne same _).trans known
    rw [ready, if_neg same]
    rfl

/-- The chart on which the search ends has no other stars than before. -/
lemma length_readied (a : Atlas) (id : StarId) (s : StarSystem) (ids : List StarId) :
    ((Population.readied a id s).assigned ids).stars.length = a.stars.length := by
  rw [length_assigned]
  exact length_setStar _

/-- The chart on which the search ends is sound if the one before was, without the main world. -/
lemma Sound.readied (sound : a.Sound σ none) (found : a.star? id = some s) (ids : List StarId) :
    ((Population.readied a id s).assigned ids).Sound σ none := by
  have main : ((Population.readied a id s).assigned ids).main = { a.main with isMain := true } :=
    main_assigned _ _
  refine sound.of_slots (length_readied a id s ids) ?_ ?_ fun known => ?_
  · rw [main]
    rfl
  · rw [main]
  · exact ⟨_, star?_readied found ids known, ⟨rfl, rfl, rfl, rfl, rfl, rfl, rfl⟩, rfl⟩

/-- Companions have no companions of their own and nothing was decided about their orbits, except
for those far from the primary star. So a main world that comes to a near companion finds its slots
undecided. -/
def NearBare (a : Atlas) : Prop :=
  ∀ ⦃id : StarId⦄ ⦃c : StarSystem⦄, id ≠ 0 → a.star? id = some c → c.orbit ≠ Orbit.far →
    c.companions = [] ∧ ∀ ⦃j : Nat⦄ ⦃content : Slot⦄, c.slots[j]? = some content →
      content = .undecided

/-- A companion in a slot of the primary star is another star, lies outside of it, and has no
companions and nothing but undecided slots.

**Proof sketch.** The slot has the number of the companion's orbit. So the companion is not the
primary star, whose orbit is no number, and is not far, as there are only twenty slots; near
companions are bare. -/
lemma Sound.exists_companion {seat : Option (StarId × Nat)} (sound : a.Sound σ seat)
    (found : a.star? 0 = some s) (primary : s.orbit = Orbit.primary)
    (near : a.NearBare)
    {i : Nat} {companion : StarId} {name : String} {star : Star}
    (held : s.slots[i]? = some (.star companion name star)) :
    companion ≠ 0 ∧ ∃ c, a.star? companion = some c ∧ Orbit.contact < c.orbit ∧
      c.companions = [] ∧
      ∀ {j : Nat} {content : Slot}, c.slots[j]? = some content → content = .undecided := by
  have few := (sound.stars found).few
  have lt := (List.getElem?_eq_some_iff.mp held).1
  cases sound.slots found held with
  | @star _ _ _ c own foundC orbit outside =>
    have other : companion ≠ 0 := by
      rintro rfl
      obtain rfl := Option.eq_some_unique found foundC
      rw [primary] at orbit
      unfold Orbit.primary at orbit
      omega
    have close : c.orbit ≠ Orbit.far := by
      rw [orbit]
      unfold Orbit.far
      omega
    obtain ⟨alone, undecided⟩ := near other foundC close
    refine ⟨other, c, foundC, ?_, alone, fun held => undecided held⟩
    rw [orbit]
    unfold Orbit.contact
    omega

/-- What seating the main world does to a chart that was seeded: it stands in or around slot `k` of
star `last`, which is the primary star or a companion in one of its slots, and it is assigned to
both. The primary star entered the phase of the main world. -/
structure Arrives (σ : Type) [RandomSource σ] (a : Atlas) (last : StarId) (k : Nat) (b : Atlas) :
    Prop where
  sound : b.Sound σ (some (last, k))
  length : b.stars.length = a.stars.length
  charter : b.main.charter = a.main.charter
  isMain : b.main.isMain = true
  bare : b.main.satellites = []
  star : ∀ {id : StarId} {s : StarSystem}, a.star? id = some s → ∃ t, b.star? id = some t ∧
    s.Alike t ∧ t.hasMain = (s.hasMain || decide (id = 0 ∨ id = last)) ∧
      t.phase = (if id = 0 then some .mainWorld else s.phase) ∧ (id ≠ last → t.slots = s.slots)
  seat : ∃ t, b.star? last = some t ∧ k < t.slots.length ∧
    (last ≠ 0 → Orbit.contact < t.orbit ∧ t.companions = [] ∧ t.slots[k]? = some .main)

/-- The search for a seat goes at most one level deep.

**Proof sketch.** The primary star is the first level. A companion in one of its slots is another
star, the second level, and all of its slots are undecided, so that no companion is found there to
go on with. There are as many levels as stars, which is enough for two since the companion has a
number above zero. -/
lemma Sound.nests {seat : Option (StarId × Nat)} (sound : a.Sound σ seat)
    (found : a.star? 0 = some s) (primary : s.orbit = Orbit.primary)
    (near : a.NearBare) :
    (Population.readied a 0 s).Nests a.stars.length 0 := by
  have regular := (sound.stars found).toRegular
  have ready : (Population.readied a 0 s).star? 0 = some { s with phase := some .mainWorld } :=
    star?_setStar_self found _
  obtain ⟨depth, length⟩ := Nat.exists_eq_add_of_le' (Nat.succ_le_of_lt (lt_length found))
  rw [length]
  refine .intro ready ⟨regular.classified, regular.capacity, regular.countable⟩ ?_
  intro i companion name star held
  obtain ⟨other, c, foundC, -, -, undecided⟩ := sound.exists_companion found primary near held
  have lt := lt_length foundC
  rw [length] at lt
  have foundC' : (Population.readied a 0 s).star? companion = some c :=
    (star?_setStar_of_ne other _).trans foundC
  cases depth with
  | zero => exact absurd (Nat.lt_one_iff.mp lt) other
  | succ depth =>
    refine .intro foundC' (sound.stars foundC).toRegular fun heldC => ?_
    cases undecided heldC

/-- A way down from the primary star ends there or at a companion in one of its slots.

**Proof sketch.** The way either ends at once or goes into a companion in a slot. Near companions of
a primary star have no companions of their own and nothing but undecided slots, so that a way ends
there. -/
lemma Descends.cases_near {seat : Option (StarId × Nat)} {path : List StarId} (sound : a.Sound σ seat)
    (found : a.star? 0 = some s) (primary : s.orbit = Orbit.primary)
    (near : a.NearBare)
    (h : (Population.readied a 0 s).Descends 0 path last) :
    last = 0 ∧ path = [] ∨ last ≠ 0 ∧ path = [last] ∧ ∃ c, a.star? last = some c ∧
      Orbit.contact < c.orbit ∧ c.companions = [] ∧
      ∀ {j : Nat} {content : Slot}, c.slots[j]? = some content → content = .undecided := by
  cases h with
  | here => exact .inl ⟨rfl, rfl⟩
  | @into _ companion _ rest t i name star found' held below =>
    have ready : (Population.readied a 0 s).star? 0 = some { s with phase := some .mainWorld } :=
      star?_setStar_self found _
    obtain rfl := Option.eq_some_unique ready found'
    obtain ⟨other, c, foundC, outside, alone, undecided⟩ :=
      sound.exists_companion found primary near held
    cases below with
    | here => exact .inr ⟨other, rfl, c, foundC, outside, alone, undecided⟩
    | into foundD heldD =>
      have foundC' : (Population.readied a 0 s).star? companion = some c :=
        (star?_setStar_of_ne other _).trans foundC
      obtain rfl := Option.eq_some_unique foundC' foundD
      cases undecided heldD

/-- The main world arrives where it is seated at the end of a way down from the primary star.

**Proof sketch.** The way ends at the primary star or at a companion in one of its slots.  The slots
of such a companion are undecided, so the main world takes one of them and cannot become a moon
there. -/
lemma Seating.arrives {path : List StarId} (sound : a.Sound σ none) (bare : a.main.satellites = [])
    (found : a.star? 0 = some s) (primary : s.orbit = Orbit.primary) (near : a.NearBare)
    (descends : (Population.readied a 0 s).Descends 0 path last)
    (seating : ((Population.readied a 0 s).assigned (0 :: path)).Seating σ last k berth b) :
    a.Arrives σ last k b := by
  have way := descends.cases_near sound found primary near
  have main : ((Population.readied a 0 s).assigned (0 :: path)).main =
      { a.main with isMain := true } := main_assigned _ _
  have ready := sound.readied found (0 :: path)
  have bare' : ((Population.readied a 0 s).assigned (0 :: path)).main.satellites = [] := by
    rw [main]
    exact bare
  have members : ∀ id : StarId, id ∈ 0 :: path ↔ id = 0 ∨ id = last := by
    intro id
    rcases way with ⟨rfl, rfl⟩ | ⟨-, rfl, -⟩ <;> simp
  obtain ⟨charter, satellites, isMain⟩ := seating.main_eq
  obtain ⟨u, t, content, last', foundU, heldU, foundT, heldT, -, -, taken⟩ :=
    seating.exists_seat ready bare'
  exact {
    sound := seating.sound ready bare'
    length := seating.length_eq.trans (length_readied a 0 s _)
    charter := by
      rw [charter, main]
      rfl
    isMain := by rw [isMain, main]
    bare := satellites.trans bare'
    star := fun {id v} known => by
      obtain ⟨slots, known', length', others⟩ :=
        seating.exists_slots (star?_readied found (0 :: path) known)
      refine ⟨_, known', ⟨rfl, rfl, rfl, rfl, length', rfl, rfl⟩, ?_, rfl, fun other => ?_⟩
      · simp only [members]
      · exact List.ext_getElem? fun i => others i fun here => other here.1
    seat := by
      refine ⟨t, foundT, (List.getElem?_eq_some_iff.mp heldT).1, fun other => ?_⟩
      obtain ⟨rfl, -⟩ | ⟨-, -, c, foundC, outside, alone, undecided⟩ := way
      · exact absurd rfl other
      · have known := star?_readied found (0 :: path) foundC
        obtain rfl := Option.eq_some_unique known foundU
        obtain ⟨slots, known', -⟩ := seating.exists_slots known
        obtain rfl := Option.eq_some_unique known' foundT
        refine ⟨outside, alone, ?_⟩
        rcases taken with rfl | ⟨g, rfl⟩
        · exact heldT
        · cases undecided heldU }

end Atlas

namespace Population

/-- The main world is placed and arrives on a chart that was seeded, and the warnings are
recorded. -/
theorem ends_arrival {run : Run σ Atlas} {s : StarSystem} (limit : Int)
    (sound : run.scene.Sound σ none) (bare : run.scene.main.satellites = [])
    (found : run.scene.star? 0 = some s) (primary : s.orbit = Orbit.primary)
    (reached : s.phase = some .planetoids) (room : 0 < s.slots.length)
    (near : run.scene.NearBare) :
    (placeMain 0 limit : Gen σ Atlas Unit).Ends run fun _ after =>
      ∃ path last k warnings, run.scene.Placement σ 0 s path last k warnings after.scene ∧
        run.scene.Arrives σ last k after.scene ∧
        after.journal.zoneWarnings = run.journal.zoneWarnings ++ warnings := by
  have may : Phase.mainWorld.mayFollow s.phase = true := by rw [reached]; rfl
  refine Gen.Ends.mono (ends_placeMain limit sound.charted found may
    (sound.nests found primary near) room) ?_
  rintro _ after ⟨path, last, k, warnings, placement, recorded⟩
  obtain ⟨berth, seating⟩ := placement.exists_seating
  exact ⟨path, last, k, warnings, placement,
    seating.arrives sound bare found primary near placement.descends, recorded⟩

end Population

end Starchart
