import Starchart.Proofs.Moons

/-!
# Growing charts

While a chart is populated, its stars enter phases, decide slots and furnish bodies with satellites.
One such step has a pointwise effect on the chart, from which every invariant follows.

## Main definitions

* `Starchart.Atlas.Grow` — one step of populating a chart.
* `Starchart.Slot.Step`, `Starchart.Atlas.Grown` — what a step does to a slot and to a chart.
* `Starchart.Slot.Becomes` — what any number of steps may make of a slot.
* `Starchart.Slot.Stands` — what may stand in a slot.
* `Starchart.Atlas.Lodges` — a companion star in the slot of its orbit.
* `Starchart.Slot.mains` — how often the main world stands in a slot or around its body.
* `Starchart.Atlas.Sound` — charts on which everything stands where it should.
* `Starchart.Atlas.BareAsMoon` — charts whose main world has satellites in a slot only.

## Main results

* `Starchart.Atlas.Grow.grown` — what one step does.
* `Starchart.Atlas.Reaches.sound` — a sound chart stays sound.
-/

set_option autoImplicit false

namespace Starchart

/-! ## Looking things up -/

namespace Atlas

variable {a : Atlas} {id : StarId} {s : StarSystem} {i : Nat}

/-- The content of a slot of a star. -/
def slot? (a : Atlas) (id : StarId) (i : Nat) : Option Slot :=
  (a.star? id).bind (·.slots[i]?)

/-- A slot of a known star. -/
lemma slot?_eq (found : a.star? id = some s) (i : Nat) : a.slot? id i = s.slots[i]? := by
  rw [slot?, found]
  rfl

/-- A slot belongs to a star. -/
lemma exists_star {content : Slot} (held : a.slot? id i = some content) :
    ∃ s, a.star? id = some s ∧ s.slots[i]? = some content := by
  unfold slot? at held
  exact Option.bind_eq_some_iff.mp held

/-- A known star is found. -/
lemma star_eq (found : a.star? id = some s) : a.star id = .ok s := by
  rw [star, found]

/-- A known star has a number below the number of stars. -/
lemma lt_length (found : a.star? id = some s) : id < a.stars.length :=
  (List.getElem?_eq_some_iff.mp found).1

/-- Every number below the number of stars is that of a star. -/
lemma exists_star_of_lt (lt : id < a.stars.length) : ∃ s, a.star? id = some s :=
  ⟨a.stars[id], List.getElem?_eq_getElem lt⟩

/-- A replaced star is found. -/
lemma star?_setStar_self (found : a.star? id = some s) (t : StarSystem) :
    (a.setStar id t).star? id = some t :=
  List.getElem?_set_self (lt_length found)

/-- Replacing a star leaves the others alone. -/
lemma star?_setStar_of_ne {other : StarId} (ne : other ≠ id) (t : StarSystem) :
    (a.setStar id t).star? other = a.star? other :=
  List.getElem?_set_ne ne.symm

/-- Replacing a star keeps the number of stars. -/
@[simp] lemma length_setStar (t : StarSystem) :
    (a.setStar id t).stars.length = a.stars.length :=
  List.length_set

/-- Of two replacements of a star the last one counts. -/
@[simp] lemma setStar_setStar (t u : StarSystem) :
    (a.setStar id t).setStar id u = a.setStar id u := by
  simp [setStar]

/-- Replacing a star by itself changes nothing. -/
lemma setStar_self (found : a.star? id = some s) : a.setStar id s = a := by
  obtain ⟨lt, rfl⟩ := List.getElem?_eq_some_iff.mp found
  rw [setStar, List.set_getElem_self lt]

/-- Changing a star replaces it. -/
lemma modifyStar_eq (found : a.star? id = some s) (f : StarSystem → StarSystem) :
    a.modifyStar id f = a.setStar id (f s) := by
  have found : a.stars[id]? = some s := found
  rw [modifyStar, setStar, List.modify_eq_set, found, Option.getD_some]

/-- Changing a star that there is not changes nothing. -/
lemma modifyStar_of_none (unknown : a.star? id = none) (f : StarSystem → StarSystem) :
    a.modifyStar id f = a := by
  rw [modifyStar, List.modify_eq_self (List.getElem?_eq_none_iff.mp unknown)]

/-- The body in a slot. -/
lemma host?_eq (a : Atlas) (id : StarId) (i : Nat) :
    a.host? id i = (a.slot? id i).bind (Slot.host? a.main) := by
  unfold host? slot?
  cases a.star? id with
  | none => rfl
  | some s => rfl

/-- Changing the main world where it stands changes it everywhere. -/
lemma setHost_main (held : a.slot? id i = some .main) (w : World) :
    a.setHost id i (.world w) = { a with main := w } := by
  unfold slot? at held
  simp only [setHost, held]

/-- Changing a world in a slot replaces it. -/
lemma setHost_world (found : a.star? id = some s) {w : World}
    (held : s.slots[i]? = some (.world w)) (w' : World) :
    a.setHost id i (.world w') = a.setStar id { s with slots := s.slots.set i (.world w') } := by
  rw [← modifyStar_eq found fun t => { t with slots := t.slots.set i (.world w') }]
  simp only [setHost, found, Option.bind_some, held]

/-- Changing a gas giant in a slot replaces it. -/
lemma setHost_giant (found : a.star? id = some s) (g' : GasGiant) :
    a.setHost id i (.giant g') = a.setStar id { s with slots := s.slots.set i (.giant g') } := by
  rw [← modifyStar_eq found fun t => { t with slots := t.slots.set i (.giant g') }]
  unfold setHost
  split <;> rename_i heq <;> simp_all

end Atlas

/-! ## Steps -/

/-- A phase may follow whatever a phase before it may follow. -/
lemma Phase.mayFollow_trans {phase later : Phase} {current : Option Phase}
    (h : later.mayFollow (some phase) = true) (h' : phase.mayFollow current = true) :
    later.mayFollow current = true := by
  cases current with
  | none => rfl
  | some first =>
    rw [Phase.mayFollow_some] at h h' ⊢
    omega

/-- What a step of populating a chart may do to slot `i` of a star. Nothing is ever taken out of a
slot, and bodies get satellites in the phase of satellites only. -/
inductive Slot.Step (σ : Type) [RandomSource σ] (main : World) (s : StarSystem) (i : Nat) :
    Slot → Slot → Prop
  | kept {content : Slot} : Step σ main s i content content
  | decided {content : Slot} (rolled : content.Rolled σ main s i) :
      Step σ main s i .undecided content
  | world {w w' : World} (reached : s.phase = some .satellites)
      (furnished : Host.Furnished σ main s.star (.world w) (.world w')) :
      Step σ main s i (.world w) (.world w')
  | giant {g g' : GasGiant} (reached : s.phase = some .satellites)
      (furnished : Host.Furnished σ main s.star (.giant g) (.giant g')) :
      Step σ main s i (.giant g) (.giant g')

/-- What any number of steps may make of the content of a slot: a slot that is undecided may get
some content, and a world or gas giant may change.  Whatever else is in a slot stays there. -/
inductive Slot.Becomes : Slot → Slot → Prop
  | kept {content : Slot} : Becomes content content
  | decided {content : Slot} : Becomes .undecided content
  | world {w w' : World} : Becomes (.world w) (.world w')
  | giant {g g' : GasGiant} : Becomes (.giant g) (.giant g')

/-- The effects of steps on a slot add up. -/
lemma Slot.Becomes.trans {content mid after : Slot} (h : content.Becomes mid)
    (h' : mid.Becomes after) : content.Becomes after := by
  cases h with
  | kept => exact h'
  | decided => exact .decided
  | world =>
    cases h' with
    | kept => exact .world
    | world => exact .world
  | giant =>
    cases h' with
    | kept => exact .giant
    | giant => exact .giant

/-- The effect of a single step on a slot. -/
lemma Slot.Step.becomes {σ : Type} [RandomSource σ] {main : World} {s : StarSystem} {i : Nat}
    {content after : Slot} (h : content.Step σ main s i after) : content.Becomes after := by
  cases h with
  | kept => exact .kept
  | decided => exact .decided
  | world => exact .world
  | giant => exact .giant

namespace Atlas

/-- One step of populating a chart: a star enters a phase or decides a slot, or, in the phase of
satellites, one of its bodies is furnished with them. The seat of the main world is no such step: it
may displace what a slot held and is treated by itself. -/
inductive Grow (σ : Type) [RandomSource σ] (limit : Int) (a : Atlas) : Atlas → Prop
  | enter {id : StarId} {s : StarSystem} {phase : Phase} (found : a.star? id = some s)
      (may : phase.mayFollow s.phase = true) :
      Grow σ limit a (a.setStar id { s with phase := some phase })
  | decide {id : StarId} {s t : StarSystem} (found : a.star? id = some s)
      (step : StarSystem.Decide σ a.main s t) :
      Grow σ limit a (a.setStar id t)
  | furnish {id : StarId} {i : Nat} {s : StarSystem} {zones : Zones} {host after : Host}
      (found : a.star? id = some s) (reached : s.phase = some .satellites)
      (zoned : s.star.zones = .ok zones) (hosted : a.host? id i = some host)
      (led : (Population.furnish zones a.main s limit i : Gen σ Host Unit).CanLead host after) :
      Grow σ limit a (a.setHost id i after)

/-- Steps of populating a chart one after the other. -/
abbrev Reaches (σ : Type) [RandomSource σ] (limit : Int) : Atlas → Atlas → Prop :=
  Relation.ReflTransGen (Grow σ limit)

/-- What a step does to a chart: stars stay alike, keep the main world if they have it and return to
no phase, each slot makes a step, and the main world gets satellites at most, where it stands. It
follows from every case of `Grow`, and invariants are proved from it alone. -/
structure Grown (σ : Type) [RandomSource σ] (a b : Atlas) : Prop where
  length : b.stars.length = a.stars.length
  star : ∀ {id : StarId} {s : StarSystem}, a.star? id = some s →
    ∃ t, b.star? id = some t ∧ s.Alike t ∧ t.hasMain = s.hasMain ∧
      ∀ phase : Phase, phase.mayFollow t.phase = true → phase.mayFollow s.phase = true
  slot : ∀ {id : StarId} {s t : StarSystem} {i : Nat} {content : Slot}, a.star? id = some s →
    b.star? id = some t → s.slots[i]? = some content →
    ∃ after, t.slots[i]? = some after ∧ content.Step σ a.main s i after
  main : b.main = a.main ∨ ∃ (id : StarId) (s : StarSystem) (i : Nat), a.star? id = some s ∧
    s.slots[i]? = some .main ∧ s.phase = some .satellites ∧
    Host.Furnished σ a.main s.star (.world a.main) (.world b.main)

end Atlas

/-! ## Where things stand -/

namespace Slot

/-- How often the main world stands in a slot or among the satellites of the body there. -/
def mains (main : World) : Slot → Nat
  | .main => 1 + main.satellites.countP Moon.isMain
  | world w => w.satellites.countP Moon.isMain
  | giant g => g.satellites.countP Moon.isMain
  | undecided | empty _ | star .. => 0

/-- What may stand in slot `i` of a star on a chart.  A body carries the number of its slot, is one
that could be rolled there, and has satellites that fit; a companion star is one of the star's own,
carries the number as well and lies outside of the star. -/
inductive Stands (σ : Type) [RandomSource σ] (a : Atlas) (s : StarSystem) (i : Nat) : Slot → Prop
  | undecided : Stands σ a s i .undecided
  | empty : Stands σ a s i (.empty i)
  | world {w : World} (rolled : Rolled σ a.main s i (.world w.bare))
      (moons : ∀ m ∈ w.satellites, m.Fits σ a.main s.star i) :
      Stands σ a s i (.world w)
  | giant {g : GasGiant} {name : String}
      (rolled : Rolled σ a.main s i (.giant { g with name := name, satellites := [] }))
      (moons : ∀ m ∈ g.satellites, m.Fits σ a.main s.star i) :
      Stands σ a s i (.giant g)
  | main (orbit : a.main.orbit = i) (position : a.main.position = i)
      (moons : ∀ m ∈ a.main.satellites, m.Fits σ a.main s.star i) :
      Stands σ a s i .main
  | star {id : StarId} {name : String} {star : Star} {companion : StarSystem}
      (own : id ∈ s.companions) (found : a.star? id = some companion)
      (orbit : companion.orbit = i) (outside : 0 < i)
      (clear : ∀ {zones : Zones}, s.star.zones = .ok zones → zones.inside < i) :
      Stands σ a s i (.star id name star)

end Slot

/-- Companion `id` of star `s` is on the chart.  If its orbit is the number of a slot of the star,
it stands in that slot, unless the main world took its place. -/
def Atlas.Lodges (a : Atlas) (s : StarSystem) (id : StarId) : Prop :=
  ∃ c, a.star? id = some c ∧ ∀ i : Nat, c.orbit = i → 0 < i → i < s.slots.length →
    s.slots[i]? = some (.star id c.name c.star) ∨ s.slots[i]? = some .main

/-- Charts on which everything stands where it should, and the main world in one place at most: in
or around the slot `seat`, if there is one. This is the invariant of populating: a fresh chart is
sound without a seat, seating the main world gives it one, and no step of `Grow` changes that. -/
structure Atlas.Sound (σ : Type) [RandomSource σ] (seat : Option (StarId × Nat)) (a : Atlas) :
    Prop where
  charted : a.main.profile.InRange (leastSize a.main.isSatellite)
  stars : ∀ {id : StarId} {s : StarSystem}, a.star? id = some s → s.Sound
  slots : ∀ {id : StarId} {s : StarSystem} {i : Nat} {content : Slot}, a.star? id = some s →
    s.slots[i]? = some content → content.Stands σ a s i
  lodged : ∀ {id companion : StarId} {s : StarSystem}, a.star? id = some s →
    companion ∈ s.companions → a.Lodges s companion
  mains : ∀ {id : StarId} {s : StarSystem} {i : Nat} {content : Slot}, a.star? id = some s →
    s.slots[i]? = some content →
    content.mains a.main = if seat = some (id, i) then 1 else 0

/-- The main world occurs in the slot where it stands. -/
lemma Slot.mains_main_pos (main : World) : 0 < Slot.mains main .main :=
  Nat.lt_of_lt_of_le Nat.one_pos (Nat.le_add_right 1 _)

/-- The body in a slot is the main world, or it does not depend on that. -/
lemma Slot.host?_cases {main : World} {content : Slot} {host : Host}
    (hosted : content.host? main = some host) :
    content = .main ∧ host = .world main ∨ ∀ main', content.host? main' = some host := by
  cases content with
  | main => exact .inl ⟨rfl, (Option.some.inj hosted).symm⟩
  | _ => exact .inr fun _ => hosted

/-- The main world occurs in a slot at least as often as among the satellites of the body there. -/
lemma Slot.countP_isMain_le_mains {main : World} {content : Slot} {host : Host}
    (hosted : content.host? main = some host) :
    host.satellites.countP Moon.isMain ≤ content.mains main := by
  cases content with
  | main =>
    cases hosted
    exact Nat.le_add_left _ 1
  | world w =>
    cases hosted
    exact Nat.le_refl _
  | giant g =>
    cases hosted
    exact Nat.le_refl _
  | _ => cases hosted

/-- The main world has satellites only if it stands in a slot, and none as a moon. -/
def Atlas.BareAsMoon (a : Atlas) : Prop :=
  a.main.satellites = [] ∨ ∃ (id : StarId) (s : StarSystem) (i : Nat), a.star? id = some s ∧
    s.slots[i]? = some .main

/-- The main world occurs at its seat alone. -/
lemma Atlas.Sound.seat_eq {σ : Type} [RandomSource σ] {seat : Option (StarId × Nat)} {a : Atlas}
    (sound : a.Sound σ seat) {id : StarId} {s : StarSystem} {i : Nat} {content : Slot}
    (found : a.star? id = some s) (held : s.slots[i]? = some content)
    (occurs : 0 < content.mains a.main) : seat = some (id, i) := by
  by_contra other
  rw [sound.mains found held, if_neg other] at occurs
  exact absurd occurs (Nat.lt_irrefl 0)

/-- Where the main world occurs in two slots, they are the same. -/
lemma Atlas.Sound.seat_unique {σ : Type} [RandomSource σ] {seat : Option (StarId × Nat)} {a : Atlas}
    (sound : a.Sound σ seat) {id id' : StarId} {s s' : StarSystem} {i i' : Nat}
    {content content' : Slot} (found : a.star? id = some s) (held : s.slots[i]? = some content)
    (occurs : 0 < content.mains a.main) (found' : a.star? id' = some s')
    (held' : s'.slots[i']? = some content') (occurs' : 0 < content'.mains a.main) :
    id = id' ∧ i = i' := by
  have here := sound.seat_eq found held occurs
  have there := sound.seat_eq found' held' occurs'
  simpa [here] using there

/-! ## Standing bodies -/

section Standing

variable {σ : Type} [RandomSource σ] {a : Atlas} {s : StarSystem} {i : Nat} {least : Int}

namespace Slot.Stands

/-- A standing world, without its satellites, was founded on a raw one with the number of its
slot. -/
lemma exists_raw {w : World} (h : Slot.Stands σ a s i (.world w)) (sound : s.Sound)
    (lt : i < s.slots.length) :
    ∃ raw : World, raw.Raw a.main ∧ World.Founded σ a.main s.star raw w.bare ∧ raw.orbit = i ∧
      raw.position = i ∧ raw.isSatellite = false := by
  cases h with
  | world rolled moons =>
    have := sound.few
    exact rolled.exists_raw sound.classified (by omega)

/-- A standing gas giant carries the number of its slot. -/
lemma giant_orbit {g : GasGiant} (h : Slot.Stands σ a s i (.giant g)) (sound : s.Sound)
    (lt : i < s.slots.length) : g.orbit = i := by
  cases h with
  | giant rolled moons =>
    have := sound.few
    exact (rolled.giant_facts (by omega)).1

/-- The body in a slot lies at the orbit of that number around the star. -/
lemma position_eq {content : Slot} (h : content.Stands σ a s i) (sound : s.Sound)
    (lt : i < s.slots.length) {host : Host}
    (hosted : content.host? a.main = some host) : host.position = i := by
  cases content with
  | world w =>
    obtain ⟨raw, -, founded, -, position, -⟩ := h.exists_raw sound lt
    injection hosted with hosted
    have : w.bare.position = i := by rw [founded.frame]; exact position
    exact hosted ▸ this
  | giant g =>
    injection hosted with hosted
    exact hosted ▸ h.giant_orbit sound lt
  | main =>
    injection hosted with hosted
    cases h with
    | main orbit position moons => exact hosted ▸ position
  | _ => cases hosted

/-- The satellites of the body in a slot fit there. -/
lemma fits {content : Slot} (h : content.Stands σ a s i) {host : Host}
    (hosted : content.host? a.main = some host) :
    ∀ m ∈ host.satellites, m.Fits σ a.main s.star i := by
  cases h with
  | world rolled moons =>
    injection hosted with hosted
    exact hosted ▸ moons
  | giant rolled moons =>
    injection hosted with hosted
    exact hosted ▸ moons
  | main orbit position moons =>
    injection hosted with hosted
    exact hosted ▸ moons
  | _ => cases hosted

/-- The body in a slot can be given satellites. -/
lemma isSized {content : Slot} (h : content.Stands σ a s i) (sound : s.Sound)
    (charted : a.main.profile.InRange least) (lt : i < s.slots.length) {host : Host}
    (hosted : content.host? a.main = some host) : host.IsSized := by
  cases content with
  | world w =>
    obtain ⟨raw, isRaw, founded, -⟩ := h.exists_raw sound lt
    injection hosted with hosted
    have : w.bare.profile.size ≤ 15 := (founded.inRange isRaw charted).size.2
    exact hosted ▸ this
  | giant g =>
    injection hosted with hosted
    exact hosted ▸ trivial
  | main =>
    injection hosted with hosted
    have : (Host.world a.main).IsSized := charted.size.2
    exact hosted ▸ this
  | _ => cases hosted

end Slot.Stands

/-- What is rolled for a slot stands there. -/
lemma Slot.Rolled.stands {content : Slot} (h : content.Rolled σ a.main s i) (sound : s.Sound)
    (lt : i < s.slots.length) : content.Stands σ a s i := by
  have := sound.few
  cases content with
  | empty orbit =>
    cases h
    exact .empty
  | world w =>
    have none : w.satellites = [] := h.satellites_eq sound.classified (by omega) a.main rfl
    exact .world ((World.bare_of_nil none).symm ▸ h) (by rw [none]; exact fun m hm => absurd hm List.not_mem_nil)
  | giant g =>
    have none : g.satellites = [] := h.satellites_eq sound.classified (by omega) a.main rfl
    have bare : ({ g with name := g.name, satellites := [] } : GasGiant) = g := by rw [← none]
    exact .giant (bare.symm ▸ h) (by rw [none]; exact fun m hm => absurd hm List.not_mem_nil)
  | _ => cases h

/-- The main world is not rolled for a slot. -/
lemma Slot.Rolled.mains_eq {content : Slot} (h : content.Rolled σ a.main s i) (sound : s.Sound)
    (lt : i < s.slots.length) (main : World) : content.mains main = 0 := by
  have := sound.few
  cases content with
  | world w =>
    have none : w.satellites = [] := h.satellites_eq sound.classified (by omega) a.main rfl
    rw [mains, none, List.countP_nil]
  | giant g =>
    have none : g.satellites = [] := h.satellites_eq sound.classified (by omega) a.main rfl
    rw [mains, none, List.countP_nil]
  | main => cases h
  | _ => rfl

end Standing

/-! ## What one step does -/

namespace Host.SameBody

/-- Worlds that are the same body differ in their satellites alone. -/
lemma world_eq {w w' : World} (h : (Host.world w).SameBody (.world w')) :
    w' = { w with satellites := w'.satellites } := by
  cases h
  rfl

/-- Gas giants that are the same body differ in their names and satellites alone. -/
lemma giant_eq {g g' : GasGiant} (h : (Host.giant g).SameBody (.giant g')) :
    g' = { g with name := g'.name, satellites := g'.satellites } := by
  cases h
  rfl

end Host.SameBody

namespace Atlas

variable {σ : Type} [RandomSource σ] {a b : Atlas} {seat : Option (StarId × Nat)} {limit : Int}

/-- Replacing a star by one that is alike, where every slot makes a step.

**Proof sketch.** The star that was replaced is alike to the one of before, with slots that made a
step each. All other stars are the same ones, and each of their slots makes the step of staying as
it is. -/
lemma grown_setStar {id : StarId} {s t : StarSystem} (found : a.star? id = some s)
    (alike : s.Alike t) (hasMain : t.hasMain = s.hasMain)
    (phases : ∀ phase : Phase, phase.mayFollow t.phase = true → phase.mayFollow s.phase = true)
    (slots : ∀ (i : Nat) (content : Slot), s.slots[i]? = some content →
      ∃ after, t.slots[i]? = some after ∧ content.Step σ a.main s i after) :
    a.Grown σ (a.setStar id t) where
  length := length_setStar t
  star {other u} found' := by
    by_cases same : other = id
    · subst same
      obtain rfl := Option.eq_some_unique found found'
      exact ⟨t, star?_setStar_self found t, alike, hasMain, phases⟩
    · exact ⟨u, (star?_setStar_of_ne same t).trans found', .refl u, rfl, fun _ may => may⟩
  slot {other u v i content} found' after held := by
    by_cases same : other = id
    · subst same
      rw [star?_setStar_self found t] at after
      obtain rfl := Option.eq_some_unique found found'
      injection after with after
      subst after
      exact slots i content held
    · rw [star?_setStar_of_ne same t, found'] at after
      injection after with after
      exact ⟨content, after ▸ held, .kept⟩
  main := .inl rfl

/-- Replacing the content of a slot by the outcome of a step on it. -/
lemma grown_set {id : StarId} {s : StarSystem} (found : a.star? id = some s) {i : Nat}
    {content after : Slot} (held : s.slots[i]? = some content)
    (step : content.Step σ a.main s i after) :
    a.Grown σ (a.setStar id { s with slots := s.slots.set i after }) := by
  refine grown_setStar found ⟨rfl, rfl, rfl, rfl, List.length_set, rfl, rfl⟩ rfl
    (fun _ may => may) ?_
  intro j other held'
  by_cases same : i = j
  · subst same
    obtain rfl := Option.eq_some_unique held held'
    exact ⟨after, List.getElem?_set_self (List.getElem?_eq_some_iff.mp held).1, step⟩
  · exact ⟨other, (List.getElem?_set_ne same).trans held', .kept⟩

/-- The body in a slot of a sound chart can be furnished with satellites. -/
lemma Sound.isSized (sound : a.Sound σ seat) {id : StarId} {s : StarSystem} {i : Nat}
    {host : Host} (found : a.star? id = some s) (hosted : a.host? id i = some host) :
    i < 20 ∧ host.IsSized := by
  rw [host?_eq, slot?_eq found] at hosted
  obtain ⟨content, held, hosted⟩ := Option.bind_eq_some_iff.mp hosted
  have lt := (List.getElem?_eq_some_iff.mp held).1
  have ofStar := sound.stars found
  have few := ofStar.few
  exact ⟨by omega, (sound.slots found held).isSized ofStar sound.charted lt hosted⟩

/-- What one step does to a sound chart.

**Proof sketch.** Entering a phase touches no slot, and a decision decides one.  Furnishing the body
in a slot replaces it there; where the slot refers to the main world, that is replaced instead. -/
theorem Grow.grown (h : Grow σ limit a b) (sound : a.Sound σ seat) : a.Grown σ b := by
  cases h with
  | enter found may =>
    exact grown_setStar found (Population.alike_enter _ _) rfl
      (fun _ later => Phase.mayFollow_trans later may) fun i content held => ⟨content, held, .kept⟩
  | decide found step =>
    refine grown_setStar found step.alike (by cases step; rfl) ?_ fun i content held => ?_
    · cases step
      exact fun _ may => may
    rcases step.kept_or_rolled held with kept | ⟨rfl, after, hafter, rolled⟩
    · exact ⟨content, kept, .kept⟩
    · exact ⟨after, hafter, .decided rolled⟩
  | @furnish id i s zones host after found reached zoned hosted led =>
    obtain ⟨lt, sized⟩ := sound.isSized found hosted
    have furnished : host.Furnished σ a.main s.star after :=
      led.holds fun run start => start ▸ Population.ends_furnish (sound.stars found).classified
        zoned limit lt (start ▸ sized)
    rw [host?_eq, slot?_eq found] at hosted
    obtain ⟨content, held, hosted⟩ := Option.bind_eq_some_iff.mp hosted
    cases content with
    | world w =>
      injection hosted with hosted
      subst hosted
      cases after with
      | world w' =>
        rw [setHost_world found held]
        exact grown_set found held (.world reached furnished)
      | giant g => cases furnished.sameBody
    | giant g =>
      injection hosted with hosted
      subst hosted
      cases after with
      | world w => cases furnished.sameBody
      | giant g' =>
        rw [setHost_giant found]
        exact grown_set found held (.giant reached furnished)
    | main =>
      injection hosted with hosted
      subst hosted
      cases after with
      | world w =>
        rw [setHost_main (by rw [slot?_eq found, held])]
        exact {
          length := rfl
          star := fun {_ u} found' => ⟨u, found', .refl u, rfl, fun _ may => may⟩
          slot := fun found' after held' => by
            have after : a.star? _ = some _ := after
            rw [found'] at after
            injection after with after
            exact ⟨_, after ▸ held', .kept⟩
          main := .inr ⟨id, s, i, found, held, reached, furnished⟩ }
      | giant g => cases furnished.sameBody
    | _ => cases hosted

/-! ## Soundness -/

namespace Grown

/-- A step changes nothing of the main world but its satellites. -/
lemma bare_eq (h : a.Grown σ b) : b.main.bare = a.main.bare := by
  rcases h.main with same | ⟨_, _, _, _, _, _, furnished⟩
  · rw [same]
  · rw [furnished.sameBody.world_eq]
    rfl

/-- A star after a step was there before. -/
lemma exists_before (h : a.Grown σ b) {id : StarId} {t : StarSystem} (found : b.star? id = some t) :
    ∃ s, a.star? id = some s ∧ s.Alike t := by
  obtain ⟨s, before⟩ := exists_star_of_lt (h.length ▸ lt_length found)
  obtain ⟨u, after, alike, -⟩ := h.star before
  obtain rfl := Option.eq_some_unique found after
  exact ⟨_, before, alike⟩

/-- A slot after a step comes from one before. -/
lemma exists_slot_before (h : a.Grown σ b) {id : StarId} {s t : StarSystem} {i : Nat}
    {after : Slot} (before : a.star? id = some s) (found : b.star? id = some t)
    (alike : s.Alike t) (held : t.slots[i]? = some after) :
    ∃ content, s.slots[i]? = some content ∧ content.Step σ a.main s i after := by
  have lt : i < s.slots.length := alike.length ▸ (List.getElem?_eq_some_iff.mp held).1
  obtain ⟨after', held', step⟩ := h.slot before found (List.getElem?_eq_getElem lt)
  obtain rfl := Option.eq_some_unique held held'
  exact ⟨_, List.getElem?_eq_getElem lt, step⟩

/-- The main world keeps satellites that fit, wherever it stands.

**Proof sketch.** Either the main world has the satellites that it had, or the step furnished it. It
stands in one slot only, so that it was furnished in this one, with satellites that fit there. -/
lemma main_fits (h : a.Grown σ b) (sound : a.Sound σ seat) {id : StarId} {s : StarSystem} {i : Nat}
    (found : a.star? id = some s) (held : s.slots[i]? = some .main) :
    ∀ m ∈ b.main.satellites, m.Fits σ b.main s.star i := by
  cases sound.slots found held with
  | main orbit position moons =>
    rcases h.main with same | ⟨id', s', i', found', held', -, furnished⟩
    · exact fun m hm => (moons m (same ▸ hm)).congr h.bare_eq
    · -- the main world stands in one slot only, so it was furnished in this one
      obtain ⟨rfl, rfl⟩ := sound.seat_unique found held (Slot.mains_main_pos _) found' held'
        (Slot.mains_main_pos _)
      obtain rfl := Option.eq_some_unique found found'
      intro m hm
      have fits := furnished.fits
      rw [show (Host.world a.main).position = i from position] at fits
      exact (fits moons m hm).congr h.bare_eq

/-- The main world stays in the slot where it stands. -/
lemma main_slot (h : a.Grown σ b) {id : StarId} {s t : StarSystem} {i : Nat}
    (found : a.star? id = some s) (after : b.star? id = some t)
    (held : s.slots[i]? = some .main) : t.slots[i]? = some .main := by
  obtain ⟨content, held', made⟩ := h.slot found after held
  cases made
  exact held'

/-- The main world gets satellites only where it stands in a slot, and stays there. -/
lemma bareAsMoon (h : a.Grown σ b) (bare : a.BareAsMoon) : b.BareAsMoon := by
  have stays : ∀ {id : StarId} {s : StarSystem} {i : Nat}, a.star? id = some s →
      s.slots[i]? = some .main → b.BareAsMoon := by
    intro id s i found held
    obtain ⟨t, after, -⟩ := h.star found
    exact .inr ⟨id, t, i, after, h.main_slot found after held⟩
  rcases h.main with same | ⟨_, _, _, found, held, -⟩
  · rcases bare with none | ⟨_, _, _, found, held⟩
    · exact .inl (same ▸ none)
    · exact stays found held
  · exact stays found held

/-- What stood in a slot, or what a step made of it, stands there after the step.

**Proof sketch.** By cases on the step and on what stood in the slot. What is kept is told by the
same digits of the main world and by stars that are alike, so it stands as before. What was decided
is rolled for the slot and stands as such. A body that was furnished is the same body with
satellites that fit it, and satellites fit by the position that it had all along. -/
lemma stands (h : a.Grown σ b) (sound : a.Sound σ seat) {id : StarId} {s t : StarSystem} {i : Nat}
    {content after : Slot} (found : a.star? id = some s) (alike : s.Alike t)
    (held : s.slots[i]? = some content) (step : content.Step σ a.main s i after) :
    after.Stands σ b t i := by
  have lt := (List.getElem?_eq_some_iff.mp held).1
  have ofStar := sound.stars found
  have bare := h.bare_eq
  have charter := World.charter_eq bare
  have charted : b.main.profile.InRange (leastSize a.main.isSatellite) := by
    have : b.main.profile = a.main.profile := (congrArg World.profile bare :)
    rw [this]
    exact sound.charted
  have stands := sound.slots found held
  cases step with
  | kept =>
    cases stands with
    | undecided => exact .undecided
    | empty => exact .empty
    | world rolled moons =>
      exact .world (rolled.congr alike charter) fun m hm => alike.star ▸ (moons m hm).congr bare
    | giant rolled moons =>
      exact .giant (rolled.congr alike charter) fun m hm => alike.star ▸ (moons m hm).congr bare
    | main orbit position moons =>
      exact .main ((congrArg World.orbit bare).trans orbit)
        ((congrArg World.position bare).trans position)
        (alike.star ▸ h.main_fits sound found held)
    | star own found' orbit outside clear =>
      obtain ⟨companion, after, alike', -⟩ := h.star found'
      exact .star (alike.companions ▸ own) after (alike'.orbit.trans orbit) outside
        (alike.star ▸ clear)
  | decided rolled =>
    have lt' : i < t.slots.length := alike.length ▸ lt
    exact (rolled.congr alike charter).stands (alike.sound ofStar) lt'
  | @world w w' reached furnished =>
    have same := furnished.sameBody.world_eq
    have position := stands.position_eq ofStar lt rfl
    cases stands with
    | world rolled moons =>
      have bare' : w'.bare = w.bare := by rw [same]; rfl
      refine .world (bare' ▸ rolled.congr alike charter) fun m hm => ?_
      have fits := furnished.fits (position ▸ moons) m hm
      rw [position] at fits
      exact alike.star ▸ fits.congr bare
  | @giant g g' reached furnished =>
    have same := furnished.sameBody.giant_eq
    have position := stands.position_eq ofStar lt rfl
    cases stands with
    | @giant _ name rolled moons =>
      have bare' : ({ g' with name := name, satellites := [] } : GasGiant) =
          { g with name := name, satellites := [] } := by rw [same]
      refine .giant (bare' ▸ rolled.congr alike charter) fun m hm => ?_
      have fits := furnished.fits (position ▸ moons) m hm
      rw [position] at fits
      exact alike.star ▸ fits.congr bare

/-- A step neither adds the main world to a slot nor takes it away. -/
lemma mains_eq (h : a.Grown σ b) (sound : a.Sound σ seat) {id : StarId} {s : StarSystem} {i : Nat}
    {content after : Slot} (found : a.star? id = some s) (held : s.slots[i]? = some content)
    (step : content.Step σ a.main s i after) : after.mains b.main = content.mains a.main := by
  cases step with
  | kept =>
    cases content with
    | main =>
      rcases h.main with same | ⟨_, _, _, _, _, _, furnished⟩
      · rw [same]
      · exact congrArg (1 + ·) furnished.mains
    | _ => rfl
  | decided rolled =>
    exact rolled.mains_eq (sound.stars found) (List.getElem?_eq_some_iff.mp held).1 _
  | world reached furnished => exact furnished.mains
  | giant reached furnished => exact furnished.mains

/-- A companion stays where it is lodged. -/
lemma lodges (h : a.Grown σ b) {id companion : StarId} {s t : StarSystem}
    (found : a.star? id = some s) (after : b.star? id = some t) (alike : s.Alike t)
    (lodged : a.Lodges s companion) : b.Lodges t companion := by
  obtain ⟨c, foundC, stands⟩ := lodged
  obtain ⟨d, foundD, alike', -⟩ := h.star foundC
  refine ⟨d, foundD, fun i orbit outside lt => ?_⟩
  rw [alike'.name, alike'.star]
  rcases stands i (alike'.orbit.symm.trans orbit) outside (alike.length ▸ lt) with held | held
  · obtain ⟨content, held', step⟩ := h.slot found after held
    cases step
    exact .inl held'
  · exact .inr (h.main_slot found after held)

/-- A sound chart is sound after a step.

**Proof sketch.** Every star, slot and link after the step is traced back to one before it. Stars
are alike; what stands in a slot stood there or was made by the step; a lodged companion stays
lodged; and a slot has the main world after the step exactly if it had it before. -/
theorem sound (h : a.Grown σ b) (sound : a.Sound σ seat) : b.Sound σ seat where
  charted := by
    have profile : b.main.profile = a.main.profile := (congrArg World.profile h.bare_eq :)
    have flag : b.main.isSatellite = a.main.isSatellite :=
      (congrArg World.isSatellite h.bare_eq :)
    rw [profile, flag]
    exact sound.charted
  stars found := by
    obtain ⟨s, before, alike⟩ := h.exists_before found
    exact alike.sound (sound.stars before)
  slots found held := by
    obtain ⟨s, before, alike⟩ := h.exists_before found
    obtain ⟨content, held', step⟩ := h.exists_slot_before before found alike held
    exact h.stands sound before alike held' step
  lodged found own := by
    obtain ⟨s, before, alike⟩ := h.exists_before found
    exact h.lodges before found alike (sound.lodged before (alike.companions ▸ own))
  mains found held := by
    obtain ⟨s, before, alike⟩ := h.exists_before found
    obtain ⟨content, held', step⟩ := h.exists_slot_before before found alike held
    rw [h.mains_eq sound before held' step]
    exact sound.mains before held'

end Grown

/-! ## Runs of steps -/

namespace Reaches

/-- A sound chart stays sound. -/
theorem sound (h : Reaches σ limit a b) (start : a.Sound σ seat) : b.Sound σ seat := by
  induction h with
  | refl => exact start
  | tail _ step ih => exact (step.grown ih).sound ih

/-- Steps change nothing of the main world but its satellites. -/
theorem bare_eq (h : Reaches σ limit a b) (start : a.Sound σ seat) :
    b.main.bare = a.main.bare := by
  induction h with
  | refl => rfl
  | tail steps step ih => exact (step.grown (sound steps start)).bare_eq.trans ih

/-- Steps keep the number of stars. -/
theorem length_eq (h : Reaches σ limit a b) (start : a.Sound σ seat) :
    b.stars.length = a.stars.length := by
  induction h with
  | refl => rfl
  | tail steps step ih => exact (step.grown (sound steps start)).length.trans ih

/-- Steps leave stars alike, and the main world assigned as it was. -/
theorem star (h : Reaches σ limit a b) (start : a.Sound σ seat) {id : StarId} {s : StarSystem}
    (found : a.star? id = some s) :
    ∃ t, b.star? id = some t ∧ s.Alike t ∧ t.hasMain = s.hasMain := by
  induction h with
  | refl => exact ⟨s, found, .refl s, rfl⟩
  | tail steps step ih =>
    obtain ⟨t, found, alike, hasMain⟩ := ih
    obtain ⟨u, found, alike', hasMain', -⟩ := (step.grown (sound steps start)).star found
    exact ⟨u, found, alike.trans alike', hasMain'.trans hasMain⟩

/-- What steps make of a slot. -/
theorem slot (h : Reaches σ limit a b) (start : a.Sound σ seat) {id : StarId} {s t : StarSystem}
    (found : a.star? id = some s) (after : b.star? id = some t) {i : Nat} {content : Slot}
    (held : s.slots[i]? = some content) :
    ∃ content', t.slots[i]? = some content' ∧ content.Becomes content' := by
  induction h generalizing t with
  | refl =>
    obtain rfl := Option.eq_some_unique found after
    exact ⟨content, held, .kept⟩
  | tail steps step ih =>
    have grown := step.grown (sound steps start)
    obtain ⟨u, before, -⟩ := grown.exists_before after
    obtain ⟨mid, heldMid, first⟩ := ih before
    obtain ⟨last, heldLast, made⟩ := grown.slot before after heldMid
    exact ⟨last, heldLast, first.trans made.becomes⟩

/-- Steps never bring back an undecided slot. -/
theorem undecided (h : Reaches σ limit a b) (start : a.Sound σ seat) {id : StarId}
    {s t : StarSystem} (found : a.star? id = some s) (after : b.star? id = some t) {i : Nat}
    (free : t.slots[i]? = some .undecided) : s.slots[i]? = some .undecided := by
  obtain ⟨t', after', alike, -⟩ := h.star start found
  obtain rfl := Option.eq_some_unique after after'
  have lt : i < s.slots.length := alike.length ▸ (List.getElem?_eq_some_iff.mp free).1
  have held : s.slots[i]? = some s.slots[i] := List.getElem?_eq_getElem lt
  generalize s.slots[i] = content at held
  obtain ⟨content', held', becomes⟩ := h.slot start found after held
  obtain rfl := Option.eq_some_unique free held'
  cases becomes <;> exact held

/-- The main world stays in the slot where it stands. -/
theorem main_slot (h : Reaches σ limit a b) (start : a.Sound σ seat) {id : StarId}
    {s t : StarSystem} (found : a.star? id = some s) (after : b.star? id = some t) {i : Nat}
    (held : s.slots[i]? = some .main) : t.slots[i]? = some .main := by
  obtain ⟨content, held', becomes⟩ := h.slot start found after held
  cases becomes
  exact held'

/-- A companion star stays in the slot where it stands. -/
theorem star_slot (h : Reaches σ limit a b) (start : a.Sound σ seat) {id companion : StarId}
    {s t : StarSystem} {name : String} {star : Star} (found : a.star? id = some s)
    (after : b.star? id = some t) {i : Nat}
    (held : s.slots[i]? = some (.star companion name star)) :
    t.slots[i]? = some (.star companion name star) := by
  obtain ⟨content, held', becomes⟩ := h.slot start found after held
  cases becomes
  exact held'

/-- Steps give the main world satellites only where it stands in a slot. -/
theorem bareAsMoon (h : Reaches σ limit a b) (start : a.Sound σ seat) (bare : a.BareAsMoon) :
    b.BareAsMoon := by
  induction h with
  | refl => exact bare
  | tail steps step ih => exact (step.grown (sound steps start)).bareAsMoon ih

end Reaches

end Atlas

end Starchart
