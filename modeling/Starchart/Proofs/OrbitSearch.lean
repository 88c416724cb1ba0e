import Mathlib.Order.Bounds.Basic
import Starchart.Proofs.Journals
import Starchart.Proofs.Moons
import Starchart.Proofs.Steps
import Starchart.Random.Congruential

/-!
# The search for a satellite orbit

What the search for the orbit of a satellite finds, told by the orbits alone.  A search that has tries
enough ends on the innermost free orbit from the one rolled outward.  If no such orbit is within its
reach, it is given up, and the satellite goes past all others.

## Main definitions

* `Starchart.Host.freeOrbits` — the free orbits within reach of a search.

## Main results

* `Starchart.Satellite.isLeast_firstFree`, `Starchart.Satellite.firstFree_eq_none_iff` — what trying
  one orbit after the other comes to.
* `Starchart.Satellite.findOrbit_eq_of_roll` — a search whose roll is known.
* `Starchart.Satellite.findOrbit_finds` — the orbit that a search finds, and what it records.
-/

set_option autoImplicit false

namespace Starchart

/-- A roll that has a description answers with an inexhaustible source. -/
lemma Roll.Gives.exists_ok {σ α : Type} [RandomSource σ] [always : Inexhaustible σ] {x : Roll σ α}
    {Q : α → Prop} (h : x.Gives Q) (dice : Dice σ) : ∃ a after, x dice = .ok a after ∧ Q a := by
  have h := h dice
  cases hx : x dice with
  | ok a after =>
    rw [hx] at h
    exact ⟨a, after, rfl, h⟩
  | error e after =>
    rw [hx] at h
    exact absurd always h.2

/-- Events recorded one after the other. -/
lemma Gen.forM_record {σ ρ β : Type} (xs : List β) (event : β → Event) (run : Run σ ρ) :
    (xs.forM fun x => record (event x) : Gen σ ρ PUnit) run =
      .ok () { run with journal := run.journal ++ xs.map event } := by
  induction xs generalizing run with
  | nil => simp only [List.map_nil, List.append_nil]; rfl
  | cons x xs ih =>
    refine (ih { run with journal := run.journal ++ [event x] }).trans ?_
    rw [List.map_cons, List.append_assoc, List.singleton_append]

/-- The free orbits within reach of a search: of `limit` orbits from `rolled` outward, those that no
satellite of the body has. -/
def Host.freeOrbits (main : World) (host : Host) (rolled limit : Int) : Set Int :=
  {orbit | rolled ≤ orbit ∧ orbit < rolled + limit ∧ orbit ∉ host.takenOrbits main}

namespace Satellite

/-! ## Trying one orbit after the other -/

section Trying

variable {taken : List Int} {orbit found : Int} {tries : Nat}

/-- What the search finds is the innermost free orbit within its reach.

**Proof sketch.** Induction on the tries.  If the first orbit is taken, the reach from the next one
is the same but for that orbit. -/
lemma isLeast_firstFree (h : firstFree taken orbit tries = some found) :
    IsLeast {o | orbit ≤ o ∧ o < orbit + tries ∧ o ∉ taken} found := by
  induction tries generalizing orbit with
  | zero => cases h
  | succ tries ih =>
    unfold firstFree at h
    split at h
    · rename_i mem
      obtain ⟨⟨le, lt, free⟩, least⟩ := ih h
      refine ⟨⟨by omega, by omega, free⟩, ?_⟩
      rintro o ⟨le', lt', free'⟩
      have other : o ≠ orbit := fun same => free' (same ▸ mem)
      exact least ⟨by omega, by omega, free'⟩
    · rename_i free
      cases h
      exact ⟨⟨Int.le_refl _, by omega, free⟩, fun o h => h.1⟩

/-- The search finds nothing exactly if every orbit within its reach is taken.

**Proof sketch.** By induction on the tries. If the first orbit is taken, the free ones within reach
are those among the rest; if it is free, the search finds it. -/
lemma firstFree_eq_none_iff : firstFree taken orbit tries = none ↔
    {o | orbit ≤ o ∧ o < orbit + tries ∧ o ∉ taken} = ∅ := by
  induction tries generalizing orbit with
  | zero =>
    refine iff_of_true rfl (Set.eq_empty_iff_forall_notMem.mpr ?_)
    rintro o ⟨le, lt, -⟩
    omega
  | succ tries ih =>
    unfold firstFree
    split
    · rename_i mem
      rw [ih]
      simp only [Set.eq_empty_iff_forall_notMem]
      constructor
      · rintro none o ⟨le, lt, free⟩
        have other : o ≠ orbit := fun same => free (same ▸ mem)
        exact none o ⟨by omega, by omega, free⟩
      · rintro none o ⟨le, lt, free⟩
        exact none o ⟨by omega, by omega, free⟩
    · rename_i free
      refine iff_of_false (Option.some_ne_none _) fun none => ?_
      exact (Set.eq_empty_iff_forall_notMem.mp none) orbit ⟨Int.le_refl _, by omega, free⟩

end Trying

/-- Past the outermost taken orbit is one beyond the greatest of them, if there are any. -/
lemma pastOutermost_cases (taken : List Int) (orbit : Int) :
    taken = [] ∧ pastOutermost taken orbit = orbit ∨
      ∃ outermost, IsGreatest {o | o ∈ taken} outermost ∧
        pastOutermost taken orbit = outermost + 1 := by
  cases taken with
  | nil => exact .inl ⟨rfl, rfl⟩
  | cons first rest => exact .inr ⟨rest.foldl max first, greatest_foldl_max first rest, rfl⟩

/-! ## The search of a run -/

section Search

variable {σ ρ : Type} [RandomSource σ] {main : World} {host : Host} {ring : Bool}
  {limit rolled found : Int}

/-- What the reach of a search comes to in tries. -/
lemma freeOrbits_eq (main : World) (host : Host) (rolled limit : Int) :
    host.freeOrbits main rolled limit =
      {o | rolled ≤ o ∧ o < rolled + limit.toNat ∧ o ∉ host.takenOrbits main} := by
  ext o
  refine and_congr_right fun le => and_congr_left fun _ => ?_
  omega

/-- The orbit found around a body is the innermost one within reach. -/
lemma isLeast_freeOrbits (h : firstFree (host.takenOrbits main) rolled limit.toNat = some found) :
    IsLeast (host.freeOrbits main rolled limit) found := by
  rw [freeOrbits_eq]
  exact isLeast_firstFree h

/-- None is found exactly if none is within reach. -/
lemma freeOrbits_eq_empty_iff : host.freeOrbits main rolled limit = ∅ ↔
    firstFree (host.takenOrbits main) rolled limit.toNat = none := by
  rw [freeOrbits_eq, firstFree_eq_none_iff]

/-- A search whose roll is known.  It records the taken orbits that it passes by, and whether it is
given up; the scene stays as it is. -/
lemma findOrbit_eq_of_roll (main : World) (limit : Int) {run : Run σ ρ} {dice : Dice σ}
    (rolls : (rollOrbit host ring : Roll σ Int) run.dice = .ok rolled dice) :
    findOrbit main host ring limit run =
      let taken := host.takenOrbits main
      let passing := (passed taken rolled limit.toNat).map Event.orbitTaken
      match firstFree taken rolled limit.toNat with
      | some orbit => .ok orbit ⟨dice, run.journal ++ passing, run.scene⟩
      | none =>
        let orbit := pastOutermost taken rolled
        .ok orbit ⟨dice, run.journal ++ passing ++ [.diagnosed (searchGivenUp limit orbit)],
          run.scene⟩ := by
  have first : (Gen.roll (rollOrbit host ring) : Gen σ ρ Int) run =
      .ok rolled { run with dice := dice } := by
    rw [Gen.roll, rolls]
  rw [findOrbit, Gen.bind_ok first, Gen.bind_ok (Gen.forM_record _ Event.orbitTaken _)]
  dsimp only
  cases firstFree (host.takenOrbits main) rolled limit.toNat <;> rfl

/-- Passing by taken orbits records no diagnostic. -/
lemma diagnostics_passing (orbits : List Int) :
    Journal.diagnostics (orbits.map Event.orbitTaken) = [] := by
  rw [Journal.diagnostics, List.filterMap_map]
  exact List.filterMap_eq_nil_iff.mpr fun _ _ => rfl

variable [Inexhaustible σ]

/-- **The search for an orbit.** Whatever satellites a body has and whatever the limit of tries, the
search ends on an orbit that no satellite has, and the scene stays as it is.  If a free orbit is
within reach from the one rolled, the search ends on the innermost of them and records no
diagnostic.  If none is, it ends one beyond the outermost satellite, or on the orbit rolled where
there is no satellite, and records one warning with that orbit.

**Proof sketch.** The search tries one orbit after the other from the one rolled outward, as often
as the limit tells. -/
theorem findOrbit_finds (main : World) (host : Host) (ring : Bool) (limit : Int) (run : Run σ ρ) :
    ∃ rolled orbit after,
      (rollOrbit host ring : Roll σ Int) run.dice = .ok rolled after.dice ∧
      findOrbit main host ring limit run = .ok orbit after ∧
      after.scene = run.scene ∧ orbit ∉ host.takenOrbits main ∧
      ((host.freeOrbits main rolled limit).Nonempty →
        IsLeast (host.freeOrbits main rolled limit) orbit ∧
          after.journal.diagnostics = run.journal.diagnostics) ∧
      (host.freeOrbits main rolled limit = ∅ →
        (host.takenOrbits main = [] ∧ orbit = rolled ∨
          ∃ outermost, IsGreatest {o | o ∈ host.takenOrbits main} outermost ∧
            orbit = outermost + 1) ∧
          after.journal.diagnostics = run.journal.diagnostics ++ [searchGivenUp limit orbit]) := by
  obtain ⟨rolled, dice, rolls, -⟩ := (gives_rollOrbit (σ := σ) host ring).exists_ok run.dice
  have search := findOrbit_eq_of_roll main limit rolls
  dsimp only at search
  cases found : firstFree (host.takenOrbits main) rolled limit.toNat with
  | some orbit =>
    rw [found] at search
    refine ⟨rolled, orbit, _, rolls, search, rfl, firstFree_not_mem found,
      fun _ => ⟨isLeast_freeOrbits found, ?_⟩, fun none => ?_⟩
    · rw [Journal.diagnostics_append, diagnostics_passing, List.append_nil]
    · rw [freeOrbits_eq_empty_iff, found] at none
      cases none
  | none =>
    rw [found] at search
    refine ⟨rolled, _, _, rolls, search, rfl, pastOutermost_not_mem _ _, fun some => ?_,
      fun _ => ⟨pastOutermost_cases _ _, ?_⟩⟩
    · exact absurd (freeOrbits_eq_empty_iff.mpr found) some.ne_empty
    · rw [Journal.diagnostics_append, Journal.diagnostics_append, diagnostics_passing,
        List.append_nil]
      rfl

end Search

/-- A world with a moon on each of four orbits, the second of which is listed twice. -/
def crowdedHost : Host :=
  .world { name := "Mora", satellites := [2, 1, 3, 2, 4].map fun orbit => .own (.ring orbit 0) }

/-- The search for the orbit of a ring around a crowded world ends on an orbit of its own. -/
theorem findOrbit_finds_crowded : Inexhaustible Congruential ∧
    ∃ rolled orbit, ∃ after : Run Congruential Host,
      (rollOrbit crowdedHost true : Roll Congruential Int) ⟨⟨1⟩, []⟩ = .ok rolled after.dice ∧
      findOrbit { name := "Regina" } crowdedHost true 2 ⟨⟨⟨1⟩, []⟩, [], crowdedHost⟩ =
        .ok orbit after ∧
      after.scene = crowdedHost ∧ orbit ∉ crowdedHost.takenOrbits { name := "Regina" } ∧
      ((crowdedHost.freeOrbits { name := "Regina" } rolled 2).Nonempty →
        IsLeast (crowdedHost.freeOrbits { name := "Regina" } rolled 2) orbit ∧
          after.journal.diagnostics = Journal.diagnostics []) ∧
      (crowdedHost.freeOrbits { name := "Regina" } rolled 2 = ∅ →
        (crowdedHost.takenOrbits { name := "Regina" } = [] ∧ orbit = rolled ∨
          ∃ outermost, IsGreatest {o | o ∈ crowdedHost.takenOrbits { name := "Regina" }} outermost ∧
            orbit = outermost + 1) ∧
          after.journal.diagnostics = Journal.diagnostics [] ++ [searchGivenUp 2 orbit]) :=
  ⟨inferInstance, findOrbit_finds { name := "Regina" } crowdedHost true 2
    (⟨⟨⟨1⟩, []⟩, [], crowdedHost⟩ : Run Congruential Host)⟩

end Satellite

end Starchart
