import Starchart.Proofs.Generation

/-!
# Which bodies have satellites

Bodies are decided without satellites and get them in one phase of their star.  Before that phase the
main world is the only satellite there may be, and at the time when it is seated there are none at all.
So it has a gas giant to itself for a while, and every list of satellites is in order at all times.

## Main definitions

* `Starchart.Atlas.Moonless` — charts without satellites.
* `Starchart.Atlas.Unfurnished` — charts on which no body got satellites ahead of its time.
* `Starchart.Atlas.Orderly` — charts on which all satellites are in order.

## Main results

* `Starchart.Atlas.Reaches.unfurnished`, `Starchart.Atlas.Reaches.orderly` — steps keep them so.
* `Starchart.Atlas.Seating.settled` — and so does seating the main world on a chart without satellites.
* `Starchart.Atlas.Course.orderly` — populating a fresh chart leaves all satellites in order.
-/

set_option autoImplicit false

namespace Starchart

namespace Atlas

variable {σ : Type} [RandomSource σ] {limit : Int} {seat : Option (StarId × Nat)} {a b c e : Atlas}
  {id last : StarId} {s : StarSystem} {i k : Nat} {host : Host}

/-! ## Charts and their satellites -/

/-- No body in a slot has satellites. -/
def Moonless (a : Atlas) : Prop :=
  ∀ ⦃id : StarId⦄ ⦃i : Nat⦄ ⦃host : Host⦄, a.host? id i = some host → host.satellites = []

/-- As long as the phase of satellites may still come for a star, the bodies in its slots have no
satellite other than the main world. The seat of the main world may give a gas giant this one before
its phase comes. -/
def Unfurnished (a : Atlas) : Prop :=
  ∀ ⦃id : StarId⦄ ⦃s : StarSystem⦄ ⦃i : Nat⦄ ⦃host : Host⦄, a.star? id = some s →
    Phase.satellites.mayFollow s.phase = true → a.host? id i = some host →
    ∀ moon ∈ host.satellites, moon = .main

/-- The satellites of every body in a slot are in order. -/
def Orderly (a : Atlas) : Prop :=
  ∀ ⦃id : StarId⦄ ⦃i : Nat⦄ ⦃host : Host⦄, a.host? id i = some host → host.Orderly a.main

/-- A body stands in a slot of a star. -/
lemma exists_of_host? (hosted : a.host? id i = some host) : ∃ s content, a.star? id = some s ∧
    s.slots[i]? = some content ∧ content.host? a.main = some host := by
  rw [host?_eq] at hosted
  obtain ⟨content, held, hosted⟩ := Option.bind_eq_some_iff.mp hosted
  obtain ⟨s, found, held⟩ := exists_star held
  exact ⟨s, content, found, held, hosted⟩

/-- The body in a slot of a known star. -/
lemma host?_eq_of_slot (found : a.star? id = some s) {content : Slot}
    (held : s.slots[i]? = some content) : a.host? id i = content.host? a.main := by
  rw [host?_eq, slot?_eq found, held, Option.bind_some]

/-- Without satellites, none came ahead of its time. -/
lemma Moonless.unfurnished (h : a.Moonless) : a.Unfurnished := by
  intro id s i host _ _ hosted moon mem
  rw [h hosted] at mem
  cases mem

/-- A chart without the main world has no satellites before their phase. -/
lemma Unfurnished.moonless (h : a.Unfurnished) (sound : a.Sound σ none)
    (early : ∀ {id : StarId} {s : StarSystem}, a.star? id = some s →
      Phase.satellites.mayFollow s.phase = true) : a.Moonless := by
  intro id i host hosted
  obtain ⟨s, content, found, held, hosted'⟩ := exists_of_host? hosted
  refine List.eq_nil_iff_forall_not_mem.mpr fun moon mem => ?_
  obtain rfl := h found (early found) hosted moon mem
  have present : 0 < host.satellites.countP Moon.isMain := List.countP_pos_iff.mpr ⟨_, mem, rfl⟩
  have absent := Slot.countP_isMain_le_mains hosted'
  rw [sound.mains_eq_zero found held] at absent
  exact absurd present (Nat.not_lt_of_le absent)

/-- A body has at most one satellite before their phase. -/
lemma Unfurnished.length_le (h : a.Unfurnished) (sound : a.Sound σ seat) (found : a.star? id = some s)
    (early : Phase.satellites.mayFollow s.phase = true) (hosted : a.host? id i = some host) :
    host.satellites.length ≤ 1 := by
  have alone : host.satellites.countP Moon.isMain = host.satellites.length := by
    refine List.countP_eq_length.mpr fun moon mem => ?_
    rw [h found early hosted moon mem]
    rfl
  obtain ⟨s', content, found', held, hosted'⟩ := exists_of_host? hosted
  have le := Slot.countP_isMain_le_mains hosted'
  rw [sound.mains found' held, alone] at le
  split at le <;> omega

/-- Changing the body in one slot of a star leaves those in the others as they are.

**Proof sketch.** By cases on what the slot holds. A world or a gas giant is changed in its own
slot, so that no other slot changes. The satellites of the main world are changed on the main world
itself, which shows wherever it stands; but on a sound chart it stands in one slot only, and that is
not the other one. -/
lemma Sound.host?_setHost_of_ne (sound : a.Sound σ seat) (hosted : a.host? id i = some host)
    {after : Host} (same : host.SameBody after) {j : Nat} (other : j ≠ i) :
    (a.setHost id i after).host? id j = a.host? id j := by
  obtain ⟨s, content, found, held, hosted'⟩ := exists_of_host? hosted
  -- where another content is set, the other slots of the star stay
  have elsewhere : ∀ content', (a.setStar id { s with slots := s.slots.set i content' }).host? id j =
      a.host? id j := by
    intro content'
    rw [host?_eq, host?_eq, slot?_eq (star?_setStar_self found _), slot?_eq found]
    rw [show ({ s with slots := s.slots.set i content' } : StarSystem).slots[j]? = s.slots[j]? from
      List.getElem?_set_ne (Ne.symm other)]
    rfl
  cases content with
  | main =>
    injection hosted' with hosted'
    subst hosted'
    cases same
    rw [setHost_main ((slot?_eq found i).trans held), host?_eq, host?_eq]
    change (a.slot? id j).bind _ = _
    cases held' : a.slot? id j with
    | none => rfl
    | some content =>
      -- the main world stands in one slot only
      have stands : s.slots[j]? = some content := (slot?_eq found j).symm.trans held'
      cases content with
      | main => exact absurd (sound.seat_unique found stands (Slot.mains_main_pos _) found held
          (Slot.mains_main_pos _)).2 other
      | _ => rfl
  | world w =>
    injection hosted' with hosted'
    subst hosted'
    cases same
    rw [setHost_world found held]
    exact elsewhere _
  | giant g =>
    injection hosted' with hosted'
    subst hosted'
    cases same
    rw [setHost_giant found]
    exact elsewhere _
  | _ => cases hosted'

/-! ## Steps -/

namespace Grown

/-- A body after a step has no satellites, or it was there before, and either it is as it was or the
step furnished it, in the phase of its star for that.

**Proof sketch.** By cases on what became of the slot. In a slot that was kept a body is as it was,
unless it is the main world and that was furnished; then it was furnished in this slot, since it
stands in no other. A body that was decided has no satellites yet. A world or a gas giant that got
satellites did so in the phase for it. -/
lemma host_cases (h : a.Grown σ b) (sound : a.Sound σ seat) (hosted : b.host? id i = some host) :
    host.satellites = [] ∨ ∃ s before, a.star? id = some s ∧ a.host? id i = some before ∧
      (host = before ∨
        s.phase = some .satellites ∧ before.Furnished σ a.main s.star host) := by
  obtain ⟨t, after, found, held, hosted⟩ := exists_of_host? hosted
  obtain ⟨s, known, alike⟩ := h.exists_before found
  obtain ⟨content, held', step⟩ := h.exists_slot_before known found alike held
  have was := host?_eq_of_slot known held'
  cases step with
  | kept =>
    rcases Slot.host?_cases hosted with ⟨rfl, rfl⟩ | own
    · refine .inr ⟨s, _, known, was, ?_⟩
      rcases h.main with same | ⟨id', s', i', known', held'', reached, furnished⟩
      · exact .inl (congrArg Host.world same)
      · -- the main world stands in one slot only, so it was furnished in this one
        obtain ⟨rfl, rfl⟩ := sound.seat_unique known held' (Slot.mains_main_pos _) known' held''
          (Slot.mains_main_pos _)
        obtain rfl := Option.eq_some_unique known known'
        exact .inr ⟨reached, furnished⟩
    · exact .inr ⟨s, host, known, was.trans (own _), .inl rfl⟩
  | decided rolled =>
    have lt := (List.getElem?_eq_some_iff.mp held').1
    have ofStar := sound.stars known
    have few := ofStar.few
    exact .inl (rolled.satellites_eq ofStar.classified (by omega) _ hosted)
  | world reached furnished =>
    injection hosted with hosted
    subst hosted
    exact .inr ⟨s, _, known, was, .inr ⟨reached, furnished⟩⟩
  | giant reached furnished =>
    injection hosted with hosted
    subst hosted
    exact .inr ⟨s, _, known, was, .inr ⟨reached, furnished⟩⟩

/-- A step furnishes no body ahead of its time.

**Proof sketch.** A body that a step leaves as it was, or decides, has no satellites that it did not
have. One that is furnished by it belongs to a star that has reached the phase of the satellites. -/
theorem unfurnished (h : a.Grown σ b) (sound : a.Sound σ seat) (before : a.Unfurnished) :
    b.Unfurnished := by
  intro id t i host found may hosted moon mem
  rcases h.host_cases sound hosted with none | ⟨s, was, known, hosted', same | ⟨reached, -⟩⟩
  · rw [none] at mem
    cases mem
  · obtain ⟨t', found', -, -, phases⟩ := h.star known
    obtain rfl := Option.eq_some_unique found found'
    exact before known (phases _ may) hosted' moon (same ▸ mem)
  · obtain ⟨t', found', -, -, phases⟩ := h.star known
    obtain rfl := Option.eq_some_unique found found'
    have may := phases _ may
    rw [reached] at may
    cases may

/-- A step leaves all satellites in order. -/
theorem orderly (h : a.Grown σ b) (sound : a.Sound σ seat) (before : a.Orderly) : b.Orderly := by
  intro id i host hosted
  have bare := h.bare_eq
  have congr : host.Orderly a.main → host.Orderly b.main := fun orderly =>
    orderly.congr (congrArg World.orbit bare :) (congrArg World.profile bare :)
  rcases h.host_cases sound hosted with none | ⟨s, was, -, hosted', same | ⟨-, furnished⟩⟩
  · exact Host.orderly_of_nil none
  · exact congr (same ▸ before hosted')
  · exact congr (furnished.orderly (before hosted').toSpaced)

end Grown

namespace Reaches

/-- Steps furnish no body ahead of its time. -/
theorem unfurnished (h : Reaches σ limit a b) (start : a.Sound σ seat) (before : a.Unfurnished) :
    b.Unfurnished := by
  induction h with
  | refl => exact before
  | tail steps step ih =>
    have sound := Reaches.sound steps start
    exact (step.grown sound).unfurnished sound ih

/-- Steps leave all satellites in order. -/
theorem orderly (h : Reaches σ limit a b) (start : a.Sound σ seat) (before : a.Orderly) :
    b.Orderly := by
  induction h with
  | refl => exact before
  | tail steps step ih =>
    have sound := Reaches.sound steps start
    exact (step.grown sound).orderly sound ih

end Reaches

/-! ## Seating the main world -/

/-- Without satellites a chart stays so as long as the slots of its stars do. -/
lemma Moonless.of_slots (h : a.Moonless) (main : b.main.satellites = a.main.satellites)
    (stars : ∀ {id : StarId} {t : StarSystem}, b.star? id = some t →
      ∃ s, a.star? id = some s ∧ t.slots = s.slots) : b.Moonless := by
  intro id i host hosted
  obtain ⟨t, content, found, held, hosted⟩ := exists_of_host? hosted
  obtain ⟨s, known, same⟩ := stars found
  have was := host?_eq_of_slot known (same ▸ held)
  rcases Slot.host?_cases hosted with ⟨rfl, rfl⟩ | own
  · exact main.trans (h was)
  · exact h (was.trans (own _))

/-- Assigning the main world to a star gives no satellites to anything. -/
lemma Moonless.assign (h : a.Moonless) (id : StarId) : (a.assign id).Moonless := by
  refine h.of_slots rfl fun {other t} found => ?_
  rw [star?_assign] at found
  obtain ⟨s, known, rfl⟩ := Option.map_eq_some_iff.mp found
  exact ⟨s, known, rfl⟩

/-- The chart on which the search for a seat ends has no satellites if the one before had none. -/
lemma Moonless.readied (h : a.Moonless) (found : a.star? id = some s) (ids : List StarId) :
    ((Population.readied a id s).assigned ids).Moonless := by
  refine h.of_slots (congrArg World.satellites (main_assigned _ _) :) fun {other t} found' => ?_
  have lt := lt_length found'
  rw [length_readied] at lt
  obtain ⟨u, known⟩ := exists_star_of_lt lt
  obtain rfl := Option.eq_some_unique found' (star?_readied found ids known)
  exact ⟨u, known, rfl⟩

/-- On a chart without satellites, the main world is the first one where it is seated as a moon.

**Proof sketch.** Elsewhere than in the seat every body is the one of before, which had no
satellites. In the seat stands the main world, which has none either, or the gas giant that took it
in. Nothing went round that giant before, so that the main world alone does now, on an orbit outside
of the giant. -/
lemma Seating.host_cases {berth : Berth} (h : a.Seating σ last k berth b) (moonless : a.Moonless)
    (bare : a.main.satellites = []) (hosted : b.host? id i = some host) :
    host.satellites = [] ∨ host.satellites = [.main] ∧ (∃ g, host = .giant g) ∧
      0 < b.main.orbit := by
  obtain ⟨t, content, found, held, hosted⟩ := exists_of_host? hosted
  obtain ⟨s, known⟩ := exists_star_of_lt (h.length_eq ▸ lt_length found)
  obtain ⟨slots, found', -, others⟩ := h.exists_slots known
  obtain rfl := Option.eq_some_unique found found'
  have none : b.main.satellites = [] := h.main_eq.2.1.trans bare
  by_cases here : id = last ∧ i = k
  · obtain ⟨rfl, rfl⟩ := here
    have slot : b.slot? id i = some content := (slot?_eq found i).trans held
    cases h with
    | inSlot found₀ held₀ surveyed =>
      have seated := (Seating.inSlot found₀ held₀ surveyed).slot_eq
      obtain rfl := Option.eq_some_unique slot seated
      injection hosted with hosted
      exact .inl (hosted ▸ none)
    | @asMoon s₀ g orbit astro found₀ held₀ free outside surveyed =>
      have alone : g.satellites = [] := moonless (host?_eq_of_slot found₀ held₀)
      have lt := (List.getElem?_eq_some_iff.mp held₀).1
      have seated : slots[i]? = _ :=
        (slot?_eq found i).symm.trans ((slot?_eq (star?_setStar_self found₀ _) i).trans
          (List.getElem?_set_self lt))
      obtain rfl := Option.eq_some_unique held seated
      injection hosted with hosted
      subst hosted
      refine .inr ⟨?_, ⟨_, rfl⟩, outside fun o mem => ?_⟩
      · rw [Host.satellites, alone, List.nil_append]
      · rw [Host.takenOrbits, Host.satellites, alone] at mem
        cases mem
  · rw [others i here] at held
    rcases Slot.host?_cases hosted with ⟨-, rfl⟩ | own
    · exact .inl none
    · exact .inl (moonless ((host?_eq_of_slot known held).trans (own _)))

/-- When the main world is seated on a chart without satellites, all satellites are in order, and
none of them came ahead of its time.

**Proof sketch.** A body without satellites is in order. The only one with any is the gas giant that
the main world was made a moon of, and it has no other; one satellite on an orbit outside of its
host is in order, and the main world is the one satellite that may come ahead of its time. -/
theorem Seating.settled {berth : Berth} (h : a.Seating σ last k berth b) (moonless : a.Moonless)
    (bare : a.main.satellites = []) : b.Orderly ∧ b.Unfurnished := by
  refine ⟨fun id i host hosted => ?_, fun id s i host _ _ hosted moon mem => ?_⟩
  · rcases h.host_cases moonless bare hosted with none | ⟨alone, ⟨g, rfl⟩, outside⟩
    · exact Host.orderly_of_nil none
    · have orbits : (Host.giant g).takenOrbits b.main = [b.main.orbit] := by
        rw [Host.takenOrbits, alone]
        rfl
      refine ⟨⟨?_, ?_, fun _ _ => trivial⟩, ?_, ?_⟩
      · rw [orbits]
        exact List.pairwise_singleton _ _
      · rw [orbits]
        exact fun o mem => List.mem_singleton.mp mem ▸ outside
      · rw [orbits]
        exact List.pairwise_singleton _ _
      · rw [alone]
        decide
  · rcases h.host_cases moonless bare hosted with none | ⟨alone, -⟩
    · rw [none] at mem
      cases mem
    · rw [alone] at mem
      exact List.mem_singleton.mp mem

/-- So it is wherever the main world is placed around a star. -/
lemma Placement.settled {path : List StarId} {warnings : List Diagnostic}
    (h : a.Placement σ id s path last k warnings b) (found : a.star? id = some s)
    (moonless : a.Moonless) (bare : a.main.satellites = []) : b.Orderly ∧ b.Unfurnished := by
  obtain ⟨berth, seating⟩ := h.exists_seating
  refine seating.settled (moonless.readied found _) ?_
  rw [main_assigned]
  exact bare

/-! ## The whole course -/

/-- A fresh chart has no bodies, and hence no satellites. -/
lemma moonless_of_fresh
    (fresh : ∀ {id : StarId} {s : StarSystem}, a.star? id = some s → a.Fresh id s) :
    a.Moonless := by
  intro id i host hosted
  obtain ⟨s, content, found, held, hosted⟩ := exists_of_host? hosted
  cases (fresh found).slots held <;> cases hosted

/-- When the primary star of a fresh chart was seeded, there are still no satellites. -/
lemma Advances.moonless (h : Advances σ limit 0 .planetoids a b) (start : a.Sound σ none)
    (fresh : ∀ {id : StarId} {s : StarSystem}, a.star? id = some s → a.Fresh id s) :
    b.Moonless := by
  refine (h.reaches.unfurnished start (moonless_of_fresh fresh).unfurnished).moonless
    (h.reaches.sound start) fun {id t} found => ?_
  by_cases primary : id = 0
  · subst primary
    obtain ⟨u, found', reached⟩ := h.star
    obtain rfl := Option.eq_some_unique found found'
    rw [reached]
    rfl
  · rw [h.others id primary] at found
    rw [(fresh found).phase]
    rfl

/-- Populating a fresh chart leaves all satellites in order. -/
theorem Course.orderly {warnings : List Diagnostic} (h : a.Course σ limit last k warnings e)
    (start : a.Sound σ none) (bare : a.main.satellites = [])
    (fresh : ∀ {id : StarId} {s : StarSystem}, a.star? id = some s → a.Fresh id s) :
    e.Orderly := by
  obtain @⟨b, c, d, s, path, seeded, found, -, -, placed, arrives, completed, -, below⟩ := h
  have bare' : b.main.satellites = [] :=
    (congrArg World.satellites (seeded.reaches.main_eq start)).trans bare
  have settled := placed.settled found (seeded.moonless start fresh) bare'
  have steps : Reaches σ limit c e := completed.reaches.trans below.reaches
  exact steps.orderly arrives.sound settled.1

end Atlas

end Starchart
