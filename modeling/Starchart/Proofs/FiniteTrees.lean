import Mathlib.Data.Fintype.Card
import Starchart.Proofs.Constellations

/-!
# Finite trees of stars

A tree of stars is read off a chart by descending from star to companion, as deeply as the chart has
stars.  That is deep enough for every finite tree, whichever way its stars are linked: a path that
is longer than the chart has stars meets a star twice, and then it never ends.

## Main results

* `Starchart.Atlas.Bears.levels_le` — a finite tree has no more levels than the chart has stars.
* `Starchart.Atlas.tree_eq_ok_iff` — the trees that are read off a chart are the finite ones.
-/

set_option autoImplicit false

namespace Starchart.Atlas

variable {a : Atlas} {id : StarId} {o : Option StarId} {t u : Tree}

namespace Bears

/-- One tree at most stands below a star. -/
lemma unique (h : a.Bears o t) (h' : a.Bears o u) : t = u := by
  induction h generalizing u with
  | absent =>
    cases h'
    rfl
  | node found _ _ second third =>
    cases h' with
    | node found' second' third' =>
      obtain rfl := Option.eq_some_unique found found'
      rw [second second', third third']

/-- A descent that is deep enough for a tree reads it. -/
lemma treeTo_eq (h : a.Bears o t) {depth : Nat} (deep : t.levels ≤ depth) :
    a.treeTo depth o = .ok t := by
  induction h generalizing depth with
  | absent => cases depth <;> rfl
  | @node id s t₂ t₃ found _ _ ihSecond ihThird =>
    rw [Tree.levels] at deep
    obtain ⟨depth, rfl⟩ := Nat.exists_eq_add_of_le' (show 1 ≤ depth by omega)
    have second : t₂.levels ≤ depth := by omega
    have third : t₃.levels ≤ depth := by omega
    simp only [treeTo, star_eq found, ihSecond second, ihThird third, bind, Except.bind]
    rfl

/-- Somewhere in a tree stands one with any smaller number of levels. -/
lemma exists_of_levels (h : a.Bears o t) {k : Nat} (pos : 0 < k) (le : k ≤ t.levels) :
    ∃ id u, a.Bears (some id) u ∧ u.levels = k := by
  induction h with
  | absent => exact absurd (Nat.lt_of_lt_of_le pos le) (Nat.lt_irrefl 0)
  | @node id s t₂ t₃ found second third ihSecond ihThird =>
    rw [Tree.levels] at le
    rcases Nat.lt_or_ge (max t₂.levels t₃.levels) k with all | fewer
    · refine ⟨id, .node s t₂ t₃, .node found second third, ?_⟩
      rw [Tree.levels]
      omega
    · rcases le_max_iff.mp fewer with below | below
      · exact ihSecond below
      · exact ihThird below

/-- A finite tree has no more levels than the chart has stars.

**Proof sketch.** For each of its levels some star bears a tree of just so many levels.  These stars
differ, since a star bears one tree only. -/
theorem levels_le (h : a.Bears o t) : t.levels ≤ a.stars.length := by
  have stars : ∀ k : Fin t.levels, ∃ id : Fin a.stars.length, ∃ u,
      a.Bears (some id.val) u ∧ u.levels = k.val + 1 := by
    intro k
    obtain ⟨id, u, bears, levels⟩ := h.exists_of_levels (Nat.succ_pos k) k.isLt
    cases bears with
    | node found second third => exact ⟨⟨id, lt_length found⟩, _, .node found second third, levels⟩
  choose star tree bears levels using stars
  have injective : Function.Injective star := by
    intro k l same
    have trees : tree k = tree l := (bears k).unique (same ▸ bears l)
    have : k.val + 1 = l.val + 1 := by rw [← levels k, ← levels l, trees]
    exact Fin.ext (Nat.succ.inj this)
  simpa using Fintype.card_le_of_injective star injective

end Bears

/-- A descent that ends reads the tree that stands below the star.

**Proof sketch.** By induction on the depth. A descent that ends found the star it was sent to and
ended below both of its companions, so that by induction these bear the trees that it read there. -/
lemma bears_of_treeTo {depth : Nat} (h : a.treeTo depth o = .ok t) : a.Bears o t := by
  induction depth generalizing o t with
  | zero =>
    cases o with
    | none =>
      cases h
      exact .absent
    | some id => cases h
  | succ depth ih =>
    cases o with
    | none =>
      cases h
      exact .absent
    | some id =>
      cases found : a.star? id with
      | none => simp [treeTo, star, found, bind, Except.bind] at h
      | some s =>
        simp only [treeTo, star_eq found, bind, Except.bind] at h
        cases second : a.treeTo depth s.secondary with
        | error e => simp [second] at h
        | ok t₂ =>
          cases third : a.treeTo depth s.tertiary with
          | error e => simp [second, third] at h
          | ok t₃ =>
            simp only [second, third] at h
            cases h
            exact .node found (ih second) (ih third)

/-- The trees that are read off a chart are exactly the finite ones. -/
theorem tree_eq_ok_iff : a.tree id = .ok t ↔ a.Bears (some id) t :=
  ⟨bears_of_treeTo, fun h => h.treeTo_eq h.levels_le⟩

end Starchart.Atlas
