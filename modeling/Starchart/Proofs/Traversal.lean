import Starchart.Proofs.Arrival

/-!
# Populating companions

Populating a star goes on with its companions, except for those on the contact orbit, which share the
orbits of their parent.  Since the stars below a star have consecutive numbers, each of them is
populated once, and no other star is touched.

## Main definitions

* `Starchart.Atlas.Awaits` — stars that are still to be populated.
* `Starchart.Atlas.Populates` — steps that populate a stretch of stars.

## Main results

* `Starchart.Population.ends_populateFrom` — populating a star and its companions does not fail.
-/

set_option autoImplicit false

namespace Starchart

namespace Atlas

variable {σ : Type} [RandomSource σ] {limit : Int} {a b c : Atlas} {lo mid hi : Nat}

/-- The stars with numbers from `lo` up to, but not including, `hi` are still to be populated, and
no contact companion among them has companions of its own. The latter is why skipping a contact
companion leaves no star out. -/
def Awaits (a : Atlas) (lo hi : Nat) : Prop :=
  ∀ ⦃id : Nat⦄ ⦃s : StarSystem⦄, lo ≤ id → id < hi → a.star? id = some s →
    s.phase = none ∧ Orbit.contact ≤ s.orbit ∧ (s.orbit = Orbit.contact → s.companions = [])

/-- Steps that populate the stars with numbers from `lo` up to, but not including, `hi`, apart from
contact companions, which they leave alone like all other stars. Populating two ranges one after the
other populates the joint range. -/
structure Populates (σ : Type) [RandomSource σ] (limit : Int) (lo hi : Nat) (a b : Atlas) :
    Prop where
  reaches : Reaches σ limit a b
  outer : ∀ id : Nat, id < lo ∨ hi ≤ id → b.star? id = a.star? id
  inner : ∀ {id : Nat} {s : StarSystem}, lo ≤ id → id < hi → a.star? id = some s →
    ∃ t, b.star? id = some t ∧
      (s.orbit = Orbit.contact ∧ t = s ∨ s.orbit ≠ Orbit.contact ∧ t.Finished)

namespace Populates

/-- An empty stretch takes no steps. -/
lemma refl (lo : Nat) (a : Atlas) : Populates σ limit lo lo a a where
  reaches := .refl
  outer _ _ := rfl
  inner above below := absurd (Nat.lt_of_lt_of_le below above) (Nat.lt_irrefl _)

/-- Two stretches in a row. -/
lemma trans (h : Populates σ limit lo mid a b) (h' : Populates σ limit mid hi b c) (le : lo ≤ mid)
    (le' : mid ≤ hi) : Populates σ limit lo hi a c where
  reaches := h.reaches.trans h'.reaches
  outer id out := by
    rw [h'.outer id (by omega), h.outer id (by omega)]
  inner {id s} above below found := by
    rcases Nat.lt_or_ge id mid with first | second
    · obtain ⟨t, found', outcome⟩ := h.inner above first found
      exact ⟨t, (h'.outer id (.inl first)).trans found', outcome⟩
    · rw [← h.outer id (.inr second)] at found
      exact h'.inner second below found

/-- A star whose own phases are complete, and then its companions. -/
lemma of_advances {s t : StarSystem} {phase : Phase}
    (advanced : Advances σ limit lo phase a b) (found : a.star? lo = some s)
    (outside : s.orbit ≠ Orbit.contact) (after : b.star? lo = some t) (finished : t.Finished)
    (below : Populates σ limit (lo + 1) hi b c) (lt : lo < hi) : Populates σ limit lo hi a c where
  reaches := advanced.reaches.trans below.reaches
  outer id out := by
    have other : id ≠ lo := by
      rintro rfl
      omega
    rw [below.outer id (by omega), advanced.others id other]
  inner {id u} above close known := by
    by_cases same : id = lo
    · subst same
      obtain rfl := Option.eq_some_unique found known
      exact ⟨t, (below.outer id (.inl (Nat.lt_succ_self id))).trans after,
        .inr ⟨outside, finished⟩⟩
    · rw [← advanced.others id same] at known
      exact below.inner (by omega) close known

end Populates

/-- What stars span does not change when they stay as they are. -/
lemma Spans.of_star?_eq {o : Option StarId} (h : a.Spans o lo hi)
    (same : ∀ id : Nat, lo ≤ id → id < hi → b.star? id = a.star? id) : b.Spans o lo hi :=
  h.congr fun {id s} above below found => ⟨s, (same id above below).trans found, rfl, rfl⟩

/-- Stars that stay as they are still await being populated. -/
lemma Awaits.of_star?_eq (h : a.Awaits lo hi)
    (same : ∀ id : Nat, lo ≤ id → id < hi → b.star? id = a.star? id) : b.Awaits lo hi :=
  fun id _ above below found => h above below ((same id above below).symm.trans found)

end Atlas

namespace Population

open Atlas (Advances Awaits Populates)

variable {σ : Type} [RandomSource σ] {limit : Int} {seat : Option (StarId × Nat)}
  {run : Run σ Atlas} {lo mid hi : Nat}

/-- Populating the stars that a star spans does not fail, if it is no contact companion. -/
def PopulatesBelow (σ : Type) [RandomSource σ] (limit : Int) (fuel : Nat) : Prop :=
  ∀ ⦃run : Run σ Atlas⦄ ⦃seat : Option (StarId × Nat)⦄ ⦃id : StarId⦄ ⦃lo hi : Nat⦄
    ⦃s : StarSystem⦄, run.scene.Spans (some id) lo hi → hi - lo ≤ fuel →
    run.scene.Sound σ seat → run.scene.Awaits lo hi → run.scene.star? id = some s →
    Orbit.contact < s.orbit →
    (populateFrom limit fuel id false : Gen σ Atlas Unit).Ends run fun _ after =>
      Populates σ limit lo hi run.scene after.scene

/-- What is done for each companion of a star. -/
def populateCompanion (limit : Int) (fuel : Nat) (companion : StarId) : Gen σ Atlas Unit := do
  if Orbit.contact < (← Gen.star companion).orbit then
    populateFrom limit fuel companion false

section Effects

variable {kinds : List Category} {R : Atlas → Atlas → Prop} [IsPreorder Atlas R]

/-- What is done for a companion moves a chart as populating it does. -/
lemma within_populateCompanion {fuel : Nat}
    (below : ∀ id, (populateFrom limit fuel id false : Gen σ Atlas Unit).Within kinds R Fault.Any)
    (companion : StarId) : (populateCompanion limit fuel companion : Gen σ Atlas Unit).Within
      kinds R Fault.Any := by
  refine (Gen.within_star trivial).bind fun c => ?_
  split
  · exact below companion
  · exact Gen.within_pure _

/-- Populating a star and its companions moves a chart along a relation that admits whatever happens
to any star, if placing the main world does where the star seats it.  It may record that there was
too little room for bodies and that searches for the orbits of satellites were given up. -/
theorem within_populateFrom (admits : ∀ id, Atlas.Admits id R) (sub : [.shortfall, .orbit] ⊆ kinds)
    (fuel : Nat) {id : StarId} {primary : Bool}
    (placing : primary = true → (placeMain id limit : Gen σ Atlas Unit).Within kinds R Fault.Any) :
    (populateFrom limit fuel id primary : Gen σ Atlas Unit).Within kinds R Fault.Any := by
  induction fuel generalizing id primary with
  | zero => exact Gen.within_throw trivial
  | succ fuel ih =>
    exact (within_populateStar (admits id) placing sub).bind fun _ =>
      (Gen.within_star trivial).bind fun s =>
        Gen.within_forM (within_populateCompanion fun _ => ih nofun)

end Effects

/-- Populating the stars below a companion, if there is one.

**Proof sketch.** A companion that is not contact is populated with all that it spans. A contact
companion is passed over; it has no companions of its own, so its stretch consists of itself alone,
and it may stay as it is. -/
lemma ends_populateCompanion {fuel : Nat} (below : PopulatesBelow σ limit fuel)
    {o : Option StarId} (spans : run.scene.Spans o lo hi) (deep : hi - lo ≤ fuel)
    (sound : run.scene.Sound σ seat) (awaits : run.scene.Awaits lo hi) :
    (o.toList.forM (populateCompanion limit fuel) : Gen σ Atlas PUnit).Ends run fun _ after =>
      Populates σ limit lo hi run.scene after.scene := by
  have whole := spans
  cases spans with
  | absent => exact .refl lo run.scene
  | @node s _ mid _ found second third =>
    have := second.le
    have := third.le
    change (populateCompanion limit fuel lo >>= fun _ => pure PUnit.unit).Ends run _
    rw [Gen.ends_bind, populateCompanion, Gen.ends_bind, Gen.ends_star found]
    split
    · rename_i outside
      exact (below whole deep sound awaits found outside).mono fun _ _ h => h
    · rename_i inside
      obtain ⟨-, least, alone⟩ := awaits (Nat.le_refl lo) (by omega) found
      have contact : s.orbit = Orbit.contact := by omega
      -- a contact companion spans its own number alone
      obtain ⟨secondary, tertiary⟩ : s.secondary = none ∧ s.tertiary = none := by
        simpa [StarSystem.companions] using alone contact
      rw [secondary] at second
      rw [tertiary] at third
      cases second
      cases third
      exact {
        reaches := .refl
        outer := fun _ _ => rfl
        inner := fun {id t} above close known => by
          obtain rfl : id = lo := by omega
          obtain rfl := Option.eq_some_unique found known
          exact ⟨s, found, .inl ⟨contact, rfl⟩⟩ }

/-- Populating the stars below both companions of a star. -/
lemma ends_populateCompanions {fuel : Nat} {s : StarSystem} (below : PopulatesBelow σ limit fuel)
    (second : run.scene.Spans s.secondary lo mid) (third : run.scene.Spans s.tertiary mid hi)
    (deep : hi - lo ≤ fuel) (sound : run.scene.Sound σ seat) (awaits : run.scene.Awaits lo hi) :
    (s.companions.forM (populateCompanion limit fuel) : Gen σ Atlas PUnit).Ends run
      fun _ after => Populates σ limit lo hi run.scene after.scene := by
  have le := second.le
  have le' := third.le
  have awaits₁ : run.scene.Awaits lo mid := fun _ _ above close => awaits above (by omega)
  have awaits₂ : run.scene.Awaits mid hi := fun _ _ above close => awaits (by omega) close
  rw [StarSystem.companions, Gen.ends_forM_append]
  apply Gen.Ends.mono (ends_populateCompanion below second (by omega) sound awaits₁)
  intro _ mid first
  -- the stars behind the first stretch are as before
  have same := fun id above (_ : id < hi) => first.outer id (.inr above)
  refine Gen.Ends.mono (ends_populateCompanion below (third.of_star?_eq same) (by omega)
    (first.reaches.sound sound) (awaits₂.of_star?_eq same)) fun _ after last => ?_
  exact first.trans last le le'

/-- Populating a star and its companions does not fail, with fuel for every star below it.

**Proof sketch.** By induction on the fuel.  The phases of the star leave its companions alone,
which span the stretches behind it, and each of them is shorter. -/
theorem ends_populateFrom (limit : Int) (fuel : Nat) : PopulatesBelow σ limit fuel := by
  induction fuel with
  | zero =>
    intro run seat id lo hi s spans deep sound awaits found outside
    cases spans with
    | node found' second third =>
      have := second.le
      have := third.le
      omega
  | succ fuel ih =>
    intro run seat id lo hi s spans deep sound awaits found outside
    cases spans with
    | @node s' _ mid _ found' second third =>
      obtain rfl := Option.eq_some_unique found found'
      have le := second.le
      have le' := third.le
      have ahead : s.orbit ≠ Orbit.contact := by omega
      obtain ⟨start, -, -⟩ := awaits (Nat.le_refl id) (by omega) found
      rw [populateFrom, Gen.ends_bind, populateStar_eq, Gen.ends_bind]
      refine Gen.Ends.mono (ends_seed limit sound found start) fun _ seeding seeded => ?_
      obtain ⟨u, foundU, reached⟩ := seeded.star
      have may : Phase.filler.mayFollow u.phase = true := by rw [reached]; rfl
      apply Gen.Ends.mono (ends_complete limit (seeded.reaches.sound sound) foundU may)
      rintro _ own ⟨completed, t, foundT, finished⟩
      have advanced := seeded.trans completed
      obtain ⟨t', foundT', alike, -⟩ := advanced.reaches.star sound found
      obtain rfl := Option.eq_some_unique foundT foundT'
      rw [Gen.ends_bind, Gen.ends_star foundT]
      -- the stars behind this one are as before
      have same : ∀ other : Nat, id + 1 ≤ other → other < hi →
          own.scene.star? other = run.scene.star? other :=
        fun other above _ => advanced.others other (Nat.ne_of_gt above)
      have second' : own.scene.Spans t.secondary (id + 1) mid := by
        rw [alike.secondary]
        exact second.of_star?_eq fun other above close => same other above (by omega)
      have third' : own.scene.Spans t.tertiary mid hi := by
        rw [alike.tertiary]
        exact third.of_star?_eq fun other above close => same other (Nat.le_trans le above) close
      have awaits' : own.scene.Awaits (id + 1) hi :=
        Awaits.of_star?_eq (fun _ _ above close => awaits (by omega) close) same
      refine Gen.Ends.mono (ends_populateCompanions ih second' third' (by omega)
        (advanced.reaches.sound sound) awaits') fun _ after below => ?_
      exact .of_advances advanced found ahead foundT finished below (by omega)

end Population

end Starchart
