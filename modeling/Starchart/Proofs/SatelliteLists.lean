import Starchart.Proofs.Answers
import Starchart.Proofs.Furnishing
import Starchart.Proofs.Systems

/-!
# The satellites of generated systems

Every satellite of a generated system has an orbit to itself, whatever orbits were rolled and however
often they were taken: satellites that find no free orbit within the limit go past the outermost one,
and the main world, where it is a moon, is the first one of its giant.  In the end the satellites of a
body are listed from the innermost outward, with the first ring alone.

## Main definitions

* `Starchart.Host.WellListed` — what a list of satellites is like in a generated system.

## Main results

* `Starchart.Generator.walk_wellListed` — all lists of satellites are like that.
-/

set_option autoImplicit false

namespace Starchart

/-- Whether a satellite other than the main world has size zero. -/
def Moon.isSizeless : Moon World → Bool
  | own w => w.profile.size == 0
  | .main => false

/-- The satellites of the body in slot `i` are listed from the innermost orbit outward, and each of
them is found by its orbit.  They lie outside of the body and, if that is a world, are smaller; they
know that they are satellites and in which slot.  At most one of them has size zero, and that has
the name of rings. -/
structure Host.WellListed (main : World) (i : Nat) (host : Host) : Prop where
  increasing : (host.takenOrbits main).Pairwise (· < ·)
  found : ∀ moon ∈ host.satellites, host.satelliteAt? main (moon.body main).orbit = some moon
  outside : ∀ moon ∈ host.satellites, 1 ≤ (moon.body main).orbit
  single : host.satellites.countP Moon.isSizeless ≤ 1
  named : ∀ w, .own w ∈ host.satellites → w.profile.size = 0 → w.name = "Ring System"
  flagged : ∀ moon ∈ host.satellites, (moon.body main).isSatellite = true
  placed : ∀ moon ∈ host.satellites, (moon.body main).position = i
  smaller : ∀ w, host = .world w → ∀ moon ∈ w.satellites,
    (moon.body main).profile.size < w.profile.size

namespace Moon.Fits

variable {σ : Type} [RandomSource σ] {main : World} {star : Star} {position : Int}
  {m : Moon World} {w : World}

/-- A satellite that fits is flagged as one and knows its position. -/
lemma place (h : m.Fits σ main star position) (classified : star.Classified) :
    (m.body main).isSatellite = true ∧ (m.body main).position = position := by
  cases m with
  | main =>
    cases h with
    | main isSatellite position_eq => exact ⟨isSatellite, position_eq⟩
  | own w =>
    rcases h.own_cases classified with ⟨_, rfl⟩ | ⟨raw, -, founded, place, flag, -⟩
    · exact ⟨rfl, rfl⟩
    · exact ⟨(congrArg World.isSatellite founded.frame).trans flag,
        (congrArg World.position founded.frame).trans place⟩

/-- A satellite of size zero that fits is a ring. -/
lemma exists_ring (h : (Moon.own w).Fits σ main star position) (classified : star.Classified)
    (sizeless : w.profile.size = 0) :
    ∃ orbit, w = World.ring orbit position := by
  rcases h.own_cases classified with ring | ⟨raw, -, founded, -, -, nonzero⟩
  · exact ring
  · exact absurd ((congrArg Profile.size founded.profile_eq).symm.trans sizeless) nonzero

end Moon.Fits

/-- Satellites in order that fit where their host stands are well listed.

**Proof sketch.** The order of the list gives what is told about several satellites, and that they
fit gives what is told about each of them: in particular a satellite without size is a ring, and
there is one at most. -/
lemma Host.Orderly.wellListed {σ : Type} [RandomSource σ] {main : World} {star : Star} {i : Nat}
    {host : Host} (orderly : host.Orderly main)
    (fits : ∀ m ∈ host.satellites, m.Fits σ main star i) (classified : star.Classified) :
    host.WellListed main i where
  increasing := orderly.sorted
  found moon mem := find?_eq_of_nodup orderly.apart mem
  outside moon mem := orderly.outside _ (List.mem_map_of_mem mem)
  single := by
    refine Nat.le_trans (List.countP_mono_left fun moon mem sizeless => ?_) orderly.rings
    cases moon with
    | main => cases sizeless
    | own w =>
      obtain ⟨orbit, rfl⟩ :=
        (fits _ mem).exists_ring classified (beq_iff_eq.mp sizeless)
      rfl
  named w mem sizeless := by
    obtain ⟨orbit, rfl⟩ := (fits _ mem).exists_ring classified sizeless
    rfl
  flagged moon mem := ((fits moon mem).place classified).1
  placed moon mem := ((fits moon mem).place classified).2
  smaller w same moon mem := by
    subst same
    exact orderly.smaller moon mem

namespace Atlas

variable {σ : Type} [RandomSource σ] {a : Atlas} {seat : Option (StarId × Nat)} {id : StarId}
  {s : StarSystem} {i : Nat} {content : Slot}

/-- The satellites of the body in a slot of a sound chart are well listed if they are in order. -/
lemma Sound.wellListed (sound : a.Sound σ seat) (orderly : a.Orderly) (found : a.star? id = some s)
    (held : s.slots[i]? = some content) {host : Host} (hosted : content.host? a.main = some host) :
    host.WellListed a.main i :=
  (orderly ((host?_eq_of_slot found held).trans hosted)).wellListed
    ((sound.slots found held).fits hosted) (sound.stars found).classified

/-- So are those of each world of the slot, since satellites have none themselves. -/
lemma Sound.holds_wellListed (sound : a.Sound σ seat) (orderly : a.Orderly) (bare : a.BareAsMoon)
    (found : a.star? id = some s) (held : s.slots[i]? = some content) {m : Moon World}
    (h : content.Holds a.main m) : (Host.world (m.body a.main)).WellListed a.main i := by
  rcases sound.holds_cases bare found held h with ⟨w, rfl, rfl⟩ | ⟨rfl, rfl⟩ | ⟨-, none⟩
  · exact sound.wellListed orderly found held rfl
  · exact sound.wellListed orderly found held rfl
  · have none : (Host.world (m.body a.main)).satellites = [] := none
    refine (Host.orderly_of_nil none).wellListed (σ := σ) (fun moon mem => ?_)
      (sound.stars found).classified
    rw [none] at mem
    cases mem

end Atlas

namespace Generator

variable {σ : Type} [RandomSource σ] [Inexhaustible σ] {main : World}

/-- **Satellites are well listed.**  In the tree of a generated system the satellites of every gas
giant and every world, be that in a slot or itself a satellite, have strictly increasing orbits from
one outward, so that each is found by its orbit.  All of them are flagged as satellites, carry the
number of the slot and are smaller than the world that they orbit, and at most one of them, the main
world apart, has size zero, which is called a ring system.

**Proof sketch.** A satellite never gets an orbit that is taken, be it found by the search or past
the outermost one.  Bodies have no satellites before the phase for that, so that the main world
becomes the first satellite of its giant.  The phase ends with sorting the satellites of each body
and keeping one ring, and no later step touches them. -/
theorem walk_wellListed (accepted : main.Accepted) (limit seed : Int) (dice : Dice σ)
    (journal : Journal) : ∃ primary run t,
      generate limit seed ⟨dice, journal, ⟨[], main⟩⟩ = .ok primary run ∧
        run.scene.tree primary = .ok t ∧
        ∀ s ∈ t.walk, ∀ (i : Nat) (content : Slot), s.slots[i]? = some content →
          (∀ g, content = .giant g → (Host.giant g).WellListed run.scene.main i) ∧
            ∀ m, content.Holds run.scene.main m →
              (Host.world (m.body run.scene.main)).WellListed run.scene.main i := by
  obtain ⟨run, a, last, k, warnings, ran, built, course⟩ :=
    exists_course accepted limit seed dice journal
  have generated := generated_of_course accepted.inRange built course
  obtain ⟨t, tree, stars⟩ := generated.exists_tree
  have start := sound_of_built (σ := σ) accepted.inRange built
  have bare : a.main.satellites = [] := by
    rw [built.main_eq]
    exact accepted.bare
  have orderly := course.orderly start bare fun known => built.fresh known
  refine ⟨0, run, t, ran, tree, fun s hs i content held => ?_⟩
  obtain ⟨id, found⟩ := stars s hs
  refine ⟨?_, fun m hm => generated.sound.holds_wellListed orderly generated.bareAsMoon found held hm⟩
  rintro g rfl
  exact generated.sound.wellListed orderly found held rfl

/-- The satellites in the system of a main world of its kind are well listed. -/
theorem walk_wellListed_regina : World.regina.Accepted ∧ ∃ primary run t,
    generate 10 1 (⟨⟨(⟨1⟩ : Congruential), []⟩, [], ⟨[], .regina⟩⟩ : Run Congruential Atlas) =
      .ok primary run ∧ run.scene.tree primary = .ok t ∧
        ∀ s ∈ t.walk, ∀ (i : Nat) (content : Slot), s.slots[i]? = some content →
          (∀ g, content = .giant g → (Host.giant g).WellListed run.scene.main i) ∧
            ∀ m, content.Holds run.scene.main m →
              (Host.world (m.body run.scene.main)).WellListed run.scene.main i :=
  ⟨World.accepted_regina, walk_wellListed World.accepted_regina 10 1 _ _⟩

end Generator

end Starchart
