import Starchart.Proofs.Systems

/-!
# Legible worlds

A world is charted by its profile text alone, so that text has to tell its digits.  It does for every
world of a generated system, although sizes are written in more than one way: which way is taken
depends on the name and the role of the world, and the reader knows only whether it is a satellite.

## Main definitions

* `Starchart.World.Legible` — worlds that their profile texts describe.

## Main results

* `Starchart.World.legible_iff` — these are the worlds whose digits are in range.
* `Starchart.Generator.walk_legible` — all worlds of a generated system are legible.
-/

set_option autoImplicit false

namespace Starchart

/-- A world that its profile text describes.  The text has nine characters and is read without
notice, and what is read has the name, the digits and the role of the world. -/
def World.Legible (w : World) : Prop :=
  ∃ text, w.profileText = .ok text ∧ text.length = 9 ∧ Profile.notices text = [] ∧
    World.ofProfileText w.name text w.isSatellite w.isMain = .ok
      { name := w.name, profile := w.profile, isSatellite := w.isSatellite, isMain := w.isMain }

/-- A world whose digits are in range is legible. -/
lemma Report.Writable.legible {w : World} (h : Report.Writable w) : w.Legible := by
  obtain ⟨text, written⟩ := h.exists_write w.name w.isMain
  obtain ⟨nine, separated, back⟩ := Profile.read_write written
  rw [Int.max_eq_right h.size.1] at back
  refine ⟨String.ofList text, ?_, ?_, ?_, ?_⟩
  · rw [World.profileText, written]
    rfl
  · rw [String.length_ofList, nine]
  · rw [Profile.notices, String.toList_ofList, separated]
    rfl
  · rw [World.ofProfileText, String.toList_ofList, back]
    rfl

/-- A legible world is one whose digits are in range. -/
lemma World.Legible.writable {w : World} (h : w.Legible) : Report.Writable w := by
  obtain ⟨text, -, -, -, back⟩ := h
  unfold World.ofProfileText at back
  cases hread : Profile.read text.toList w.isSatellite with
  | error e =>
    rw [hread] at back
    cases back
  | ok p =>
    rw [hread] at back
    injection back with back
    have same : p = w.profile := congrArg World.profile back
    rw [Report.Writable, ← same]
    exact Profile.inRange_of_read hread

/-- Exactly the worlds whose digits are in range are legible. -/
theorem World.legible_iff {w : World} : w.Legible ↔ Report.Writable w :=
  ⟨World.Legible.writable, Report.Writable.legible⟩

/-- Every world of a slot of a sound chart has digits in range. -/
lemma Atlas.Sound.writable_of_holds {σ : Type} [RandomSource σ] {a : Atlas}
    {seat : Option (StarId × Nat)} {id : StarId} {s : StarSystem} {i : Nat} {content : Slot}
    {m : Moon World} (sound : a.Sound σ seat) (bare : a.BareAsMoon) (found : a.star? id = some s)
    (held : s.slots[i]? = some content) (h : content.Holds a.main m) :
    Report.Writable (m.body a.main) := by
  rcases sound.holds_cases bare found held h with ⟨w, rfl, rfl⟩ | ⟨rfl, rfl⟩ | ⟨fits, -⟩
  · exact sound.writable (List.mem_of_getElem? found) (List.mem_of_getElem? held)
      List.mem_cons_self
  · exact sound.charted
  · exact fits.writable (sound.stars found).classified sound.charted

namespace Generator

variable {σ : Type} [RandomSource σ] [Inexhaustible σ] {main : World}

/-- **All worlds are legible.**  In the tree of a generated system every world, be it a planet, a
belt, a satellite, a ring or the main world, has a profile text of nine characters.  With its name
and role that is read as a world with the same digits, and nothing is noted about it.

**Proof sketch.** The rolls for natural digits end within the range of one digit, and what settling
and surveying add stays there as well: it is cut off at the ends or follows from the digits of the
main world, which were read from a text.  Sizes below zero occur among satellites only.  Digits in
range are written, and they read back. -/
theorem walk_legible (accepted : main.Accepted) (limit seed : Int) (dice : Dice σ)
    (journal : Journal) : ∃ primary run t,
      generate limit seed ⟨dice, journal, ⟨[], main⟩⟩ = .ok primary run ∧
        run.scene.tree primary = .ok t ∧
        ∀ s ∈ t.walk, ∀ content ∈ s.slots, ∀ m, content.Holds run.scene.main m →
          (m.body run.scene.main).Legible := by
  obtain ⟨run, last, k, ran, generated⟩ := exists_generated accepted limit seed dice journal
  obtain ⟨t, tree, stars⟩ := generated.exists_tree
  refine ⟨0, run, t, ran, tree, fun s hs content hcontent m hm => ?_⟩
  obtain ⟨id, found⟩ := stars s hs
  obtain ⟨i, held⟩ := List.getElem?_of_mem hcontent
  exact (generated.sound.writable_of_holds generated.bareAsMoon found held hm).legible

/-- The worlds in the system of a main world of its kind are legible. -/
theorem walk_legible_regina : World.regina.Accepted ∧ ∃ primary run t,
    generate 10 1 (⟨⟨(⟨1⟩ : Congruential), []⟩, [], ⟨[], .regina⟩⟩ : Run Congruential Atlas) =
      .ok primary run ∧ run.scene.tree primary = .ok t ∧
        ∀ s ∈ t.walk, ∀ content ∈ s.slots, ∀ m, content.Holds run.scene.main m →
          (m.body run.scene.main).Legible :=
  ⟨World.accepted_regina, walk_legible World.accepted_regina 10 1 _ _⟩

end Generator

end Starchart
