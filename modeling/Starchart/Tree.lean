import Starchart.Atlas

/-!
# The tree of stars

Seen from its primary, a chart is a tree: every star has at most two companions.  Listings and
counts are read off that tree.

## Main definitions

* `Starchart.Tree` — a star with the trees of its companions, or no star.
* `Starchart.Atlas.tree` — the tree below a star of a chart.
* `Starchart.Tree.walk` — the stars of a tree, each before its companions.
* `Starchart.Survey` — body counts of a tree.
-/

set_option autoImplicit false

namespace Starchart

/-- A star with the trees of its secondary and tertiary companion, or no star. -/
inductive Tree where
  | absent
  | node (s : StarSystem) (secondary tertiary : Tree)
  deriving Inhabited

/-- The tree below a star, which is to be no deeper than the given depth. -/
def Atlas.treeTo (a : Atlas) : Nat → Option StarId → Except Fault Tree
  | _, none => .ok .absent
  | 0, some id => .error (.endlessDescent id .descent)
  | depth + 1, some id => do
    let s ← a.star id
    let secondary ← a.treeTo depth s.secondary
    let tertiary ← a.treeTo depth s.tertiary
    return .node s secondary tertiary

/-- The tree below a star.  A path that is longer than the chart has stars meets a star twice and
never ends, so the chart has no such tree. -/
def Atlas.tree (a : Atlas) (id : StarId) : Except Fault Tree :=
  a.treeTo a.stars.length (some id)

namespace Tree

/-- The stars of a tree, each before its companions. -/
def walk : Tree → List StarSystem
  | absent => []
  | node s secondary tertiary => s :: (secondary.walk ++ tertiary.walk)

/-- The number of stars. -/
def countStars : Tree → Nat
  | absent => 0
  | node _ secondary tertiary => 1 + (secondary.countStars + tertiary.countStars)

end Tree

/-! ## Counting bodies -/

/-- Body counts. -/
structure Survey where
  stars : Nat := 0
  worlds : Nat := 0
  giants : Nat := 0
  satellites : Nat := 0
  belts : Nat := 0
  deriving DecidableEq, Repr, Inhabited

namespace Survey

/-- The counts with those of one slot added. -/
def addSlot (main : World) (counts : Survey) (content : Slot) : Survey :=
  match content.host? main with
  | none => counts
  | some host =>
    let counts := { counts with satellites := counts.satellites + host.satellites.length }
    match host with
    | .giant _ => { counts with giants := counts.giants + 1 }
    | .world w =>
      if w.isBelt then { counts with belts := counts.belts + 1 }
      else { counts with worlds := counts.worlds + 1 }

/-- The counts with those of one star added. -/
def addStar (main : World) (counts : Survey) (s : StarSystem) : Survey :=
  s.slots.foldl (addSlot main) { counts with stars := counts.stars + 1 }

end Survey

/-- The body counts of a tree. -/
def Tree.survey (main : World) (t : Tree) : Survey :=
  t.walk.foldl (Survey.addStar main) {}

end Starchart
