import Starchart.Proofs.Systems

/-!
# Trade classes of generated worlds

A world is given the trade classes of its digits before a laboratory may raise its tech.  That makes
a difference where the tech passes the one threshold in its way, which takes a main world of tech
twelve: then a settled world with a laboratory is high-tech without being listed as such.

## Main definitions

* `Starchart.Tree.hasStaleTrade` — whether some slot has a world with other trade classes than its
  digits say.

## Main results

* `Starchart.Generator.walk_trade_iff` — which worlds have the trade classes of their digits.
* `Starchart.Generator.exists_stale_trade` — a system in which some world has not.
-/

set_option autoImplicit false

namespace Starchart

/-- The trade classes of a world on a sound chart, other than the main world and rings, are those of
its digits, unless a laboratory made a settled world high-tech. -/
lemma Atlas.Sound.trade_iff {σ : Type} [RandomSource σ] {a : Atlas} {seat : Option (StarId × Nat)}
    (sound : a.Sound σ seat) (bare : a.BareAsMoon) {id : StarId} {s : StarSystem} {i : Nat}
    {content : Slot} {w : World} (found : a.star? id = some s)
    (held : s.slots[i]? = some content) (h : content.Holds a.main (.own w))
    (noRing : w.isRing = false) :
    w.trade = w.profile.tradeClasses w.isMain ↔
      ¬(.lab ∈ w.facilities ∧ 0 < w.profile.population ∧ a.main.profile.tech = 12) := by
  have ofStar := sound.stars found
  rcases sound.own_cases bare found held h with rfl | fits
  · obtain ⟨raw, -, founded, -⟩ := (sound.slots found held).exists_raw ofStar
      (List.getElem?_eq_some_iff.mp held).1
    exact founded.trade_iff
  · rcases fits.own_cases ofStar.classified with ⟨_, rfl⟩ | ⟨raw, -, founded, -⟩
    · cases noRing
    · exact founded.trade_iff

namespace Generator

variable {σ : Type} [RandomSource σ] [Inexhaustible σ] {main : World}

/-- **Trade classes and laboratories.**  In the tree of a generated system the main world has the
trade classes of its digits.  Any other world, unless it is a ring, has the trade classes of its
digits exactly if it is not a settled world with a laboratory under a main world of tech twelve.

**Proof sketch.** The classes are computed before a laboratory raises the tech of a world to that of
the main world, from one less.  That is a difference if the classes before and after differ, and
between the tech levels that are possible then the only one that comes in is the high-tech class. -/
theorem walk_trade_iff (accepted : main.Accepted) (limit seed : Int) (dice : Dice σ)
    (journal : Journal) : ∃ primary run t,
      generate limit seed ⟨dice, journal, ⟨[], main⟩⟩ = .ok primary run ∧
        run.scene.tree primary = .ok t ∧
        run.scene.main.trade = run.scene.main.profile.tradeClasses run.scene.main.isMain ∧
        ∀ s ∈ t.walk, ∀ content ∈ s.slots, ∀ w, content.Holds run.scene.main (.own w) →
          w.isRing = false → (w.trade = w.profile.tradeClasses w.isMain ↔
            ¬(.lab ∈ w.facilities ∧ 0 < w.profile.population ∧ main.profile.tech = 12)) := by
  obtain ⟨run, last, k, ran, generated⟩ := exists_generated accepted limit seed dice journal
  obtain ⟨t, tree, stars⟩ := generated.exists_tree
  have profile : run.scene.main.profile = main.profile :=
    (congrArg World.profile generated.charter :)
  have trade : run.scene.main.trade = main.profile.tradeClasses true :=
    (congrArg World.trade generated.charter :)
  refine ⟨0, run, t, ran, tree, ?_, fun s hs content hcontent w hw noRing => ?_⟩
  · rw [trade, profile, generated.isMain]
  · obtain ⟨id, found⟩ := stars s hs
    obtain ⟨i, held⟩ := List.getElem?_of_mem hcontent
    rw [generated.sound.trade_iff generated.bareAsMoon found held hw noRing, profile]

/-- In the system of a main world of lesser tech, all worlds have the trade classes of their
digits. -/
theorem walk_trade_iff_regina : World.regina.Accepted ∧ ∃ primary run t,
    generate 10 1 (⟨⟨(⟨1⟩ : Congruential), []⟩, [], ⟨[], .regina⟩⟩ : Run Congruential Atlas) =
      .ok primary run ∧ run.scene.tree primary = .ok t ∧
        run.scene.main.trade = run.scene.main.profile.tradeClasses run.scene.main.isMain ∧
        ∀ s ∈ t.walk, ∀ content ∈ s.slots, ∀ w, content.Holds run.scene.main (.own w) →
          w.isRing = false → (w.trade = w.profile.tradeClasses w.isMain ↔
            ¬(.lab ∈ w.facilities ∧ 0 < w.profile.population ∧
              World.regina.profile.tech = 12)) :=
  ⟨World.accepted_regina, walk_trade_iff World.accepted_regina 10 1 _ _⟩

end Generator

/-! ## A system with stale trade classes -/

/-- Whether a world stands in a slot, is no ring and has other trade classes than its digits say. -/
def Slot.hasStaleTrade : Slot → Bool
  | world w => !w.isRing && w.trade != w.profile.tradeClasses w.isMain
  | _ => false

/-- Whether some slot of a tree has a world with other trade classes than its digits say. -/
def Tree.hasStaleTrade (t : Tree) : Bool :=
  t.walk.any fun s => s.slots.any Slot.hasStaleTrade

/-- A tree with a stale slot holds a stale world. -/
lemma Tree.exists_of_hasStaleTrade {t : Tree} (h : t.hasStaleTrade = true) (main : World) :
    ∃ s ∈ t.walk, ∃ content ∈ s.slots, ∃ w, content.Holds main (.own w) ∧ w.isRing = false ∧
      w.trade ≠ w.profile.tradeClasses w.isMain := by
  obtain ⟨s, hs, stale⟩ := List.any_eq_true.mp h
  obtain ⟨content, hcontent, stale⟩ := List.any_eq_true.mp stale
  cases content with
  | world w =>
    obtain ⟨noRing, differs⟩ := Bool.and_eq_true_iff.mp stale
    rw [Bool.not_eq_eq_eq_not, Bool.not_true] at noRing
    exact ⟨s, hs, _, hcontent, w, .world, noRing, bne_iff_ne.mp differs⟩
  | _ => cases stale

/-- A crowded main world of tech twelve. -/
def World.jewell : World :=
  { name := "Jewell"
    profile := {
      port := .A, size := 5, atmosphere := 6, hydro := 3, population := 9, government := 10
      law := 10, tech := 12 } }

/-- The digits of that world are those of its profile text. -/
lemma World.accepted_jewell : World.jewell.Accepted where
  read := ⟨['A', '5', '6', '3', '9', 'A', 'A', '-', 'C'], false, by decide, nofun⟩
  bare := rfl

namespace Generator

/-- A main world of tech twelve in whose system some settled world with a laboratory is not listed
as high-tech, although it is. -/
theorem exists_stale_trade : World.jewell.Accepted ∧ ∃ primary run t,
    generate 64 0 (⟨⟨(⟨16692965⟩ : Congruential), []⟩, [], ⟨[], .jewell⟩⟩ :
      Run Congruential Atlas) = .ok primary run ∧ run.scene.tree primary = .ok t ∧
        ∃ s ∈ t.walk, ∃ content ∈ s.slots, ∃ w, content.Holds run.scene.main (.own w) ∧
          w.isRing = false ∧ w.trade ≠ w.profile.tradeClasses w.isMain := by
  obtain ⟨primary, run, t, ran, tree, stale⟩ := Gen.exists_of_treePasses
    (generate 64 0) ⟨⟨(⟨16692965⟩ : Congruential), []⟩, [], ⟨[], .jewell⟩⟩
    (fun _ t => t.hasStaleTrade) (by decide +kernel)
  exact ⟨World.accepted_jewell, primary, run, t, ran, tree,
    t.exists_of_hasStaleTrade stale run.scene.main⟩

end Generator

end Starchart
