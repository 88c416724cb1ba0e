import Starchart.Proofs.Moons

/-!
# Tidying up satellites

What tidying up leaves of any list of satellites, be they in order or not, on orbits of their own or
not.  Two satellites may be alike in everything, so they are told apart by their places in the list:
each place holds one satellite, which is kept once or not at all.

## Main definitions

* `Starchart.Moon.noFarther` — the comparison by which satellites are sorted.
* `Starchart.Moon.Precedes` — the order in which satellites are listed in the end.
* `Starchart.Moon.Outlasts` — the satellites that are kept.
* `Starchart.Moon.titled` — the name under which a satellite is kept.

## Main results

* `Starchart.Satellite.exists_order` — sorting puts each satellite into its place.
* `Starchart.Satellite.exists_kept` — of satellites in their places, all but the later rings are kept.
* `Starchart.Satellite.tidy_tidy` — what is tidied up stays as it is.
* `Starchart.Satellite.tidyHost_keeps` — all of it for a body with its satellites.
-/

set_option autoImplicit false

namespace Starchart

namespace Moon

/-- The comparison by which satellites are sorted: whether one is no farther out than another. -/
def noFarther (main : World) (m other : Moon World) : Bool :=
  decide ((m.body main).orbit ≤ (other.body main).orbit)

/-- Of two satellites with their places in a list, the first one goes before the second: its orbit
is closer, or it is the same orbit and an earlier place. -/
def Precedes (main : World) (m other : Moon World × Nat) : Prop :=
  (m.1.body main).orbit < (other.1.body main).orbit ∨
    (m.1.body main).orbit = (other.1.body main).orbit ∧ m.2 < other.2

/-- A satellite outlasts others in a list if it is no ring, or else goes before all other rings. So
one ring is kept at most, the innermost and of several as close the one listed first. -/
def Outlasts (main : World) (listed : List (Moon World × Nat)) (m : Moon World × Nat) : Prop :=
  m.1.isLooseRing = true →
    ∀ ring ∈ listed, ring.1.isLooseRing = true → ring = m ∨ Precedes main m ring

/-- A satellite as it is kept: a ring goes by the name of rings. -/
def titled (m : Moon World) : Moon World :=
  if m.isLooseRing then m.rename Name.ring else m

variable {main : World} {m other : Moon World × Nat}

/-- The comparison is transitive. -/
lemma noFarther_trans (main : World) (a b c : Moon World) (h : noFarther main a b = true)
    (h' : noFarther main b c = true) : noFarther main a c = true :=
  decide_eq_true (Int.le_trans (of_decide_eq_true h) (of_decide_eq_true h'))

/-- The comparison is total. -/
lemma noFarther_total (main : World) (a b : Moon World) :
    (noFarther main a b || noFarther main b a) = true := by
  simpa [noFarther] using Int.le_total _ _

/-- Satellites that are compared together with their places go one before the other. -/
lemma precedes_of_zipIdxLE (h : List.zipIdxLE (noFarther main) m other = true)
    (apart : m.2 ≠ other.2) : Precedes main m other := by
  simp only [List.zipIdxLE, noFarther, decide_eq_true_eq] at h
  split_ifs at h with inward outward
  · exact .inr ⟨Int.le_antisymm inward outward, Nat.lt_of_le_of_ne (of_decide_eq_true h) apart⟩
  · exact .inl (Int.lt_of_not_ge outward)

/-- Of two satellites at most one goes before the other. -/
lemma Precedes.not_precedes (h : Precedes main m other) : ¬Precedes main other m := by
  unfold Precedes at h ⊢
  omega

/-- Renaming twice to the same name is renaming once. -/
@[simp] lemma rename_rename (m : Moon World) (name : String) :
    (m.rename name).rename name = m.rename name := by
  cases m <;> rfl

/-- A satellite keeps its orbit when it is kept. -/
lemma orbit_titled (main : World) (m : Moon World) :
    (m.titled.body main).orbit = (m.body main).orbit := by
  unfold titled
  split <;> cases m <;> rfl

end Moon

open Moon (Precedes Outlasts noFarther titled)

namespace Satellite

variable {main : World} {moons : List (Moon World)}

/-! ## Sorting -/

/-- Sorting puts the satellites of a list, each with its place, in order.

**Proof sketch.** Sorting is stable, so it is the same to sort the satellites together with their
places and to drop the places afterwards.  No place occurs twice. -/
lemma exists_order (main : World) (moons : List (Moon World)) :
    ∃ order : List (Moon World × Nat), order.Perm moons.zipIdx ∧ order.Pairwise (Precedes main) ∧
      moons.mergeSort (noFarther main) = order.map Prod.fst := by
  have perm := List.mergeSort_perm moons.zipIdx (List.zipIdxLE (noFarther main))
  refine ⟨_, perm, ?_, List.mergeSort_zipIdx.symm⟩
  have sorted := List.pairwise_mergeSort (List.zipIdxLE_trans (Moon.noFarther_trans main))
    (List.zipIdxLE_total (Moon.noFarther_total main)) moons.zipIdx
  have places : (moons.zipIdx.map Prod.snd).Nodup := by
    rw [List.zipIdx_map_snd]
    exact List.nodup_range'
  have apart := List.pairwise_map.mp ((perm.map Prod.snd).nodup_iff.mpr places)
  exact (sorted.and apart).imp fun h => Moon.precedes_of_zipIdxLE h.1 h.2

/-- Tidying up sorts the satellites and keeps one ring. -/
lemma tidy_eq (main : World) (moons : List (Moon World)) :
    tidy main moons = keepFirstRing (moons.mergeSort (noFarther main)) := rfl

/-! ## Keeping one ring -/

section Kept

variable {first m : Moon World × Nat} {rest : List (Moon World × Nat)}

/-- A ring that goes before all others outlasts them, and no other ring outlasts it. -/
lemma outlasts_cons_iff_of_ring (before : ∀ m ∈ rest, Precedes main first m)
    (ring : first.1.isLooseRing = true) :
    m ∈ first :: rest ∧ Outlasts main (first :: rest) m ↔
      m ∈ first :: rest.filter fun m => !m.1.isLooseRing := by
  rw [List.mem_cons, List.mem_cons, List.mem_filter]
  constructor
  · rintro ⟨rfl | mem, outlasts⟩
    · exact .inl rfl
    · by_cases loose : m.1.isLooseRing = true
      · rcases outlasts loose first List.mem_cons_self ring with same | inner
        · exact .inl same.symm
        · exact absurd inner (before m mem).not_precedes
      · exact .inr ⟨mem, by simpa using loose⟩
  · rintro (rfl | ⟨mem, plain⟩)
    · exact ⟨.inl rfl, fun _ other mem _ => (List.mem_cons.mp mem).imp_right (before other)⟩
    · exact ⟨.inr mem, fun loose => by simp [loose] at plain⟩

/-- A satellite that is no ring outlasts all others, and bears on none of them. -/
lemma outlasts_cons_iff_of_not_ring (plain : ¬first.1.isLooseRing = true) :
    m ∈ first :: rest ∧ Outlasts main (first :: rest) m ↔
      m = first ∨ m ∈ rest ∧ Outlasts main rest m := by
  have others : Outlasts main (first :: rest) m ↔ Outlasts main rest m := by
    refine forall_congr' fun _ => ?_
    rw [List.forall_mem_cons]
    exact and_iff_right fun ring => absurd ring plain
  have own : m = first → Outlasts main rest m := by
    rintro rfl ring
    exact absurd ring plain
  rw [List.mem_cons, others, or_and_right, and_iff_left_of_imp own]

end Kept

/-- Of satellites in order those are kept that outlast the others.

**Proof sketch.** Induction on the list.  The first ring goes before all others, which are left
out. -/
lemma exists_kept {order : List (Moon World × Nat)} (sorted : order.Pairwise (Precedes main)) :
    ∃ kept : List (Moon World × Nat), kept.Sublist order ∧
      keepFirstRing (order.map Prod.fst) = kept.map (fun m => m.1.titled) ∧
      ∀ m, m ∈ kept ↔ m ∈ order ∧ Outlasts main order m := by
  induction order with
  | nil => exact ⟨[], .slnil, rfl, fun m => ⟨nofun, fun h => h.1⟩⟩
  | cons first rest ih =>
    obtain ⟨before, sorted⟩ := List.pairwise_cons.mp sorted
    rw [List.map_cons]
    unfold keepFirstRing
    by_cases ring : first.1.isLooseRing = true
    · rw [if_pos ring]
      refine ⟨first :: rest.filter fun m => !m.1.isLooseRing, List.filter_sublist.cons_cons _, ?_,
        fun m => (outlasts_cons_iff_of_ring before ring).symm⟩
      rw [List.map_cons, titled, if_pos ring, List.filter_map]
      congr 1
      refine List.map_congr_left fun m mem => ?_
      have other := (List.mem_filter.mp mem).2
      rw [titled, if_neg (by simpa using other)]
    · rw [if_neg ring]
      obtain ⟨kept, sub, same, mem_kept⟩ := ih sorted
      refine ⟨first :: kept, sub.cons_cons _, ?_, fun m => ?_⟩
      · rw [same, List.map_cons, titled, if_neg ring]
      · rw [List.mem_cons, mem_kept, outlasts_cons_iff_of_not_ring ring]

/-- Exactly one ring is kept if there is any. -/
lemma countP_isLooseRing_tidy (main : World) (moons : List (Moon World)) :
    (tidy main moons).countP Moon.isLooseRing = min 1 (moons.countP Moon.isLooseRing) := by
  rw [tidy, countP_isLooseRing_keepFirstRing, (List.mergeSort_perm moons _).countP_eq]

/-! ## Tidying up again -/

/-- Where one ring is kept, nothing is left out once more. -/
lemma keepFirstRing_keepFirstRing (moons : List (Moon World)) :
    keepFirstRing (keepFirstRing moons) = keepFirstRing moons := by
  induction moons with
  | nil => rfl
  | cons first rest ih =>
    by_cases ring : first.isLooseRing = true
    · have others : (rest.filter (!·.isLooseRing)).filter (!·.isLooseRing) =
          rest.filter (!·.isLooseRing) :=
        List.filter_eq_self.mpr fun _ mem => (List.mem_filter.mp mem).2
      simp only [keepFirstRing, if_pos ring, Moon.isLooseRing_rename, Moon.rename_rename, others]
    · simp only [keepFirstRing, if_neg ring, ih]

/-- Satellites that are tidied up are in order. -/
lemma pairwise_tidy (main : World) (moons : List (Moon World)) :
    (tidy main moons).Pairwise fun a b => noFarther main a b = true := by
  obtain ⟨order, -, sorted, same⟩ := exists_order main moons
  obtain ⟨kept, sub, same', -⟩ := exists_kept sorted
  rw [tidy_eq, same, same', List.pairwise_map]
  refine (sorted.sublist sub).imp fun h => decide_eq_true ?_
  rw [Moon.orbit_titled, Moon.orbit_titled]
  unfold Precedes at h
  omega

/-- Tidying up twice is the same as once. -/
lemma tidy_tidy (main : World) (moons : List (Moon World)) :
    tidy main (tidy main moons) = tidy main moons := by
  rw [tidy_eq main (tidy main moons), List.mergeSort_of_pairwise (pairwise_tidy main moons)]
  exact keepFirstRing_keepFirstRing _

/-! ## Tidying up a body -/

/-- **Tidying up.** Whatever satellites a body has, those that it keeps are listed by their orbits,
and on the same orbit as they were before.  All satellites that are no rings are kept, and one ring
if there is any: the innermost one, of several the one listed first.  It goes by the name of rings,
and nothing else about the satellites and the body is changed.  Tidying up again changes nothing.

**Proof sketch.** Sorting is stable, so that each satellite goes before those that it precedes, and
the first ring in that order is the one that is kept. -/
theorem tidyHost_keeps (main : World) (host : Host) :
    (∃ kept : List (Moon World × Nat),
      (tidyHost main host).satellites = kept.map (fun m => m.1.titled) ∧
      kept.Pairwise (Precedes main) ∧
      ∀ m, m ∈ kept ↔
        m ∈ host.satellites.zipIdx ∧ Outlasts main host.satellites.zipIdx m) ∧
    (tidyHost main host).satellites.countP Moon.isLooseRing =
      min 1 (host.satellites.countP Moon.isLooseRing) ∧
    (tidyHost main host).withSatellites host.satellites = host ∧
    tidyHost main (tidyHost main host) = tidyHost main host := by
  have listed : (tidyHost main host).satellites = tidy main host.satellites :=
    Host.satellites_withSatellites _ _
  refine ⟨?_, ?_, ?_, ?_⟩
  · obtain ⟨order, perm, sorted, same⟩ := exists_order main host.satellites
    obtain ⟨kept, sub, same', mem_kept⟩ := exists_kept sorted
    refine ⟨kept, ?_, sorted.sublist sub, fun m => ?_⟩
    · rw [listed, tidy_eq, same, same']
    · rw [mem_kept, perm.mem_iff]
      simp only [Outlasts, perm.mem_iff]
  · rw [listed, countP_isLooseRing_tidy]
  · rw [tidyHost, Host.withSatellites_withSatellites, Host.withSatellites_satellites]
  · rw [tidyHost, listed, tidy_tidy, tidyHost, Host.withSatellites_withSatellites]

end Satellite

end Starchart
