import Mathlib.Data.List.Perm.Subperm
import Starchart.Satellite

/-!
# The orbits of satellites

A new satellite takes the first free orbit from the one rolled outward.  Only so many orbits can be
taken, so with more tries than there are satellites the search always finds one, and even more tries
make no difference.  Satellites that got their orbits like this are apart from each other, and tidying
them up puts them in order.

## Main definitions

* `Starchart.Host.Spaced` — satellites with orbits of their own, none larger than its host.
* `Starchart.Host.Orderly` — spaced satellites in the order of their orbits, with one ring at most.

## Main results

* `Starchart.Satellite.exists_firstFree` — with tries enough, the search finds an orbit.
* `Starchart.Host.Spaced.add` — adding a satellite on a free orbit.
* `Starchart.Host.Spaced.tidy` — tidying up.
-/

set_option autoImplicit false

namespace Starchart

/-- A new name makes no ring of a satellite, and no other satellite of a ring. -/
@[simp] lemma Moon.isLooseRing_rename (m : Moon World) (name : String) :
    (m.rename name).isLooseRing = m.isLooseRing := by
  cases m <;> rfl

namespace Satellite

/-! ## The search for a free orbit -/

section Search

variable {taken : List Int} {orbit found other : Int} {tries : Nat}

/-- The search goes outward. -/
lemma le_of_firstFree (h : firstFree taken orbit tries = some found) : orbit ≤ found := by
  induction tries generalizing orbit with
  | zero => cases h
  | succ tries ih =>
    unfold firstFree at h
    split at h
    · have := ih h
      omega
    · exact Int.le_of_eq (Option.some.inj h)

/-- Only taken orbits are passed by, from the one rolled outward. -/
lemma mem_taken_of_mem_passed (h : other ∈ passed taken orbit tries) :
    other ∈ taken ∧ orbit ≤ other := by
  induction tries generalizing orbit with
  | zero => cases h
  | succ tries ih =>
    unfold passed at h
    split at h
    · rename_i mem
      rcases List.mem_cons.mp h with rfl | h
      · exact ⟨mem, Int.le_refl _⟩
      · obtain ⟨mem, le⟩ := ih h
        exact ⟨mem, by omega⟩
    · cases h

/-- No orbit is passed by twice. -/
lemma nodup_passed : (passed taken orbit tries).Nodup := by
  induction tries generalizing orbit with
  | zero => exact List.nodup_nil
  | succ tries ih =>
    unfold passed
    split
    · refine List.nodup_cons.mpr ⟨fun mem => ?_, ih⟩
      have := (mem_taken_of_mem_passed mem).2
      omega
    · exact List.nodup_nil

/-- A search that finds nothing passed by an orbit with every try. -/
lemma length_passed (none : firstFree taken orbit tries = none) :
    (passed taken orbit tries).length = tries := by
  induction tries generalizing orbit with
  | zero => rfl
  | succ tries ih =>
    unfold firstFree at none
    unfold passed
    split at none
    · rename_i mem
      rw [if_pos mem, List.length_cons, ih none]
    · cases none

/-- With more tries than there are taken orbits, the search finds a free one.

**Proof sketch.** Otherwise it would pass by a different taken orbit with every try. -/
theorem exists_firstFree (room : taken.length < tries) (orbit : Int) :
    ∃ found, firstFree taken orbit tries = some found := by
  cases h : firstFree taken orbit tries with
  | some found => exact ⟨found, rfl⟩
  | none =>
    have among : (passed taken orbit tries).Subperm taken :=
      List.subperm_of_subset nodup_passed fun _ mem => (mem_taken_of_mem_passed mem).1
    have := among.length_le
    rw [length_passed h] at this
    omega

/-- More tries than it takes to find an orbit make no difference.

**Proof sketch.** By induction on the tries. As long as orbits are taken both searches pass the same
ones, and both stop at the first that is free. -/
lemma firstFree_add (h : firstFree taken orbit tries = some found) (more : Nat) :
    firstFree taken orbit (tries + more) = some found ∧
      passed taken orbit (tries + more) = passed taken orbit tries := by
  induction tries generalizing orbit with
  | zero => cases h
  | succ tries ih =>
    rw [Nat.succ_add]
    unfold firstFree at h
    unfold firstFree passed
    split at h
    · rename_i mem
      obtain ⟨same, same'⟩ := ih h
      simp only [if_pos mem, same, same', and_self]
    · rename_i free
      simp only [if_neg free, h, and_self]

end Search

/-- The greatest of several orbits is one of them, and none lies beyond it. -/
lemma greatest_foldl_max (first : Int) (rest : List Int) : rest.foldl max first ∈ first :: rest ∧
    ∀ orbit ∈ first :: rest, orbit ≤ rest.foldl max first :=
  List.max?_eq_some_iff.mp List.max?_cons'

/-- The orbit past the outermost taken one is free. -/
lemma pastOutermost_not_mem (taken : List Int) (orbit : Int) :
    pastOutermost taken orbit ∉ taken := by
  intro mem
  cases taken with
  | nil => exact List.not_mem_nil mem
  | cons first rest =>
    have := (greatest_foldl_max first rest).2 _ mem
    simp only [pastOutermost] at this
    omega

/-- The orbit past the outermost taken one lies outside of the host. -/
lemma pastOutermost_pos {taken : List Int} {orbit : Int} (outside : ∀ o ∈ taken, 0 < o)
    (pos : 0 < orbit) : 0 < pastOutermost taken orbit := by
  cases taken with
  | nil => exact pos
  | cons first rest =>
    have := (greatest_foldl_max first rest).2 first List.mem_cons_self
    have := outside first List.mem_cons_self
    simp only [pastOutermost]
    omega

/-! ## Keeping the first ring -/

section Tidy

variable {main : World} {moons : List (Moon World)}

/-- What the name of a ring does not bear on is kept in order, with some of it left out. -/
lemma sublist_map_keepFirstRing {α : Type} {f : Moon World → α}
    (same : ∀ moon, f (moon.rename Name.ring) = f moon) :
    ((keepFirstRing moons).map f).Sublist (moons.map f) := by
  induction moons with
  | nil => exact .slnil
  | cons first rest ih =>
    unfold keepFirstRing
    split
    · rw [List.map_cons, List.map_cons, same]
      exact (List.filter_sublist.map f).cons_cons _
    · exact ih.cons_cons _

/-- Exactly one ring is kept if there is any.

**Proof sketch.** By induction on the satellites. No ring is left behind the first one, which stays
a ring under its new name. -/
lemma countP_isLooseRing_keepFirstRing : (keepFirstRing moons).countP Moon.isLooseRing =
    min 1 (moons.countP Moon.isLooseRing) := by
  induction moons with
  | nil => rfl
  | cons first rest ih =>
    unfold keepFirstRing
    by_cases ring : first.isLooseRing = true
    · have none : (rest.filter (!·.isLooseRing)).countP Moon.isLooseRing = 0 := by
        refine List.countP_eq_zero.mpr fun moon mem => ?_
        simpa using (List.mem_filter.mp mem).2
      have renamed := (first.isLooseRing_rename Name.ring).trans ring
      rw [if_pos ring, List.countP_cons_of_pos renamed, List.countP_cons_of_pos ring, none]
      omega
    · rw [if_neg ring, List.countP_cons_of_neg ring, List.countP_cons_of_neg ring, ih]

end Tidy

end Satellite

/-! ## Spaced satellites -/

namespace Host

/-- Whether a body is larger than a satellite of the given size; gas giants always are. -/
def Outsizes (size : Int) : Host → Prop
  | world w => size < w.profile.size
  | giant _ => True

/-- The satellites of a body are apart from each other, outside of the body and smaller than it. -/
structure Spaced (main : World) (host : Host) : Prop where
  apart : (host.takenOrbits main).Nodup
  outside : ∀ orbit ∈ host.takenOrbits main, 0 < orbit
  smaller : ∀ moon ∈ host.satellites, host.Outsizes (moon.body main).profile.size

/-- Spaced satellites that are listed from the innermost orbit outward, with at most one ring. -/
structure Orderly (main : World) (host : Host) : Prop extends host.Spaced main where
  sorted : (host.takenOrbits main).Pairwise (· < ·)
  rings : host.satellites.countP Moon.isLooseRing ≤ 1

/-- A body takes the satellites it is given. -/
@[simp] lemma satellites_withSatellites (moons : List (Moon World)) (host : Host) :
    (host.withSatellites moons).satellites = moons := by
  cases host <;> rfl

/-- Satellites do not change the size of a body. -/
@[simp] lemma outsizes_withSatellites (moons : List (Moon World)) (host : Host) (size : Int) :
    (host.withSatellites moons).Outsizes size ↔ host.Outsizes size := by
  cases host <;> exact Iff.rfl

/-- The orbits of the satellites that a body is given. -/
lemma takenOrbits_withSatellites (main : World) (moons : List (Moon World)) (host : Host) :
    (host.withSatellites moons).takenOrbits main = moons.map fun moon => (moon.body main).orbit := by
  rw [takenOrbits, satellites_withSatellites]

variable {main main' : World} {host : Host} {moons : List (Moon World)} {moon : Moon World}

/-- A body without satellites is in order. -/
lemma orderly_of_nil (none : host.satellites = []) : host.Orderly main := by
  have free : host.takenOrbits main = [] := by rw [takenOrbits, none, List.map_nil]
  refine ⟨⟨?_, ?_, ?_⟩, ?_, ?_⟩
  · rw [free]
    exact List.nodup_nil
  · rw [free]
    exact fun _ mem => absurd mem List.not_mem_nil
  · rw [none]
    exact fun _ mem => absurd mem List.not_mem_nil
  · rw [free]
    exact .nil
  · rw [none]
    exact Nat.zero_le 1

/-- One more satellite on a free orbit keeps satellites spaced.

**Proof sketch.** What is told about all satellites holds of the old ones as before, and of the new
one by hypothesis; its orbit differs from theirs because it was free. -/
lemma Spaced.add (spaced : host.Spaced main) (free : (moon.body main).orbit ∉ host.takenOrbits main)
    (outside : 0 < (moon.body main).orbit) (smaller : host.Outsizes (moon.body main).profile.size) :
    (host.withSatellites (host.satellites ++ [moon])).Spaced main where
  apart := by
    rw [takenOrbits_withSatellites, List.map_append, List.map_singleton]
    refine List.nodup_append.mpr ⟨spaced.apart, List.pairwise_singleton _ _, ?_⟩
    intro orbit mem other mem' same
    rw [List.mem_singleton.mp mem'] at same
    exact free (same ▸ mem)
  outside orbit mem := by
    rw [takenOrbits_withSatellites, List.map_append] at mem
    rcases List.mem_append.mp mem with old | new
    · exact spaced.outside orbit old
    · exact List.mem_singleton.mp new ▸ outside
  smaller other mem := by
    rw [satellites_withSatellites] at mem
    rw [outsizes_withSatellites]
    rcases List.mem_append.mp mem with old | new
    · exact spaced.smaller other old
    · exact List.mem_singleton.mp new ▸ smaller

/-- Tidying up puts spaced satellites in order.

**Proof sketch.** Sorted orbits without duplicates are strictly increasing, and they still are when
some satellites are left out. -/
theorem Spaced.tidy (spaced : host.Spaced main) : (Satellite.tidyHost main host).Orderly main := by
  let orbitOf : Moon World → Int := fun moon => (moon.body main).orbit
  let sizeOf : Moon World → Int := fun moon => (moon.body main).profile.size
  let sorted := host.satellites.mergeSort fun a b => decide (orbitOf a ≤ orbitOf b)
  have perm : (sorted.map orbitOf).Perm (host.takenOrbits main) :=
    (List.mergeSort_perm _ _).map orbitOf
  have increasing : (sorted.map orbitOf).Pairwise (· < ·) := by
    have le : (sorted.map orbitOf).Pairwise (· ≤ ·) := by
      refine List.pairwise_map.mpr ((List.pairwise_mergeSort ?_ ?_ _).imp of_decide_eq_true)
      · exact fun a b c h h' => decide_eq_true
          (Int.le_trans (of_decide_eq_true h) (of_decide_eq_true h'))
      · exact fun a b => by simpa using Int.le_total (orbitOf a) (orbitOf b)
    exact (le.and (perm.nodup_iff.mpr spaced.apart)).imp fun h => by omega
  have kept : ((Satellite.tidyHost main host).takenOrbits main).Sublist (sorted.map orbitOf) := by
    rw [Satellite.tidyHost, takenOrbits_withSatellites]
    refine Satellite.sublist_map_keepFirstRing fun moon => ?_
    cases moon <;> rfl
  have sizes : ((Satellite.tidyHost main host).satellites.map sizeOf).Sublist
      (sorted.map sizeOf) := by
    rw [Satellite.tidyHost, satellites_withSatellites]
    refine Satellite.sublist_map_keepFirstRing fun moon => ?_
    cases moon <;> rfl
  refine ⟨⟨(increasing.sublist kept).imp Int.ne_of_lt, ?_, fun moon mem => ?_⟩,
    increasing.sublist kept, ?_⟩
  · exact fun orbit mem => spaced.outside orbit (perm.mem_iff.mp (kept.subset mem))
  · obtain ⟨other, mem', same⟩ :=
      List.mem_map.mp (sizes.subset (List.mem_map_of_mem mem))
    have smaller := spaced.smaller other (List.mem_mergeSort.mp mem')
    rw [Satellite.tidyHost, outsizes_withSatellites]
    exact (show (other.body main).profile.size = (moon.body main).profile.size from same) ▸ smaller
  · rw [Satellite.tidyHost, satellites_withSatellites]
    exact Satellite.countP_isLooseRing_keepFirstRing ▸ Nat.min_le_left _ _

/-- The orbits of satellites depend on that of the main world alone. -/
lemma takenOrbits_congr (orbit : main'.orbit = main.orbit) (host : Host) :
    host.takenOrbits main' = host.takenOrbits main := by
  refine List.map_congr_left fun moon _ => ?_
  cases moon with
  | own w => rfl
  | main => exact orbit

/-- Satellites stay in order when the main world keeps its orbit and its digits. -/
lemma Orderly.congr (orderly : host.Orderly main) (orbit : main'.orbit = main.orbit)
    (profile : main'.profile = main.profile) : host.Orderly main' := by
  have orbits := takenOrbits_congr orbit host
  refine ⟨⟨orbits ▸ orderly.apart, orbits ▸ orderly.outside, fun moon mem => ?_⟩,
    orbits ▸ orderly.sorted, orderly.rings⟩
  have smaller := orderly.smaller moon mem
  cases moon with
  | own w => exact smaller
  | main =>
    rwa [show (Moon.main.body main').profile = (Moon.main.body main).profile from profile]

end Host

end Starchart
