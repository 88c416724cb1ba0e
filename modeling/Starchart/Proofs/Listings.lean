import Mathlib.Data.List.Count
import Starchart.Proofs.Answers
import Starchart.Proofs.FiniteTrees
import Starchart.Proofs.Systems
import Starchart.Report

/-!
# Listings and counts

A listing walks through a tree of stars on its own, and so do the count of its stars and the survey of
its bodies.  All three meet the same stars and the same bodies, in the same order: a listing is made of
entries with one line each, and the bodies among the entries are those that the survey counts.

## Main definitions

* `Starchart.Sighting` — a body as a survey counts it.
* `Starchart.Tree.sightings` — the bodies of a tree.
* `Starchart.Report.Entry` — what one line of a listing is about.
* `Starchart.Tree.entries` — the entries of a listing.

## Main results

* `Starchart.Tree.survey_eq` — a survey counts the stars and the bodies of a tree.
* `Starchart.Report.linesTo_eq` — the lines of a listing are those of its entries.
* `Starchart.Tree.filterMap_entries` — the bodies among the entries are those of the tree.
* `Starchart.Report.render_agrees` — listing, survey and tree agree.
-/

set_option autoImplicit false

namespace Starchart

/-! ## Bodies -/

/-- A body as a survey counts it: a belt, any other world, or a gas giant in a slot, or a
satellite. -/
inductive Sighting where
  | belt (w : World)
  | world (w : World)
  | giant (g : GasGiant)
  | moon (w : World)

namespace Sighting

/-- A world in a slot, as a survey counts it. -/
def ofWorld (w : World) : Sighting := if w.isBelt then belt w else world w

/-- Whether a body counts as a world. -/
def isWorld : Sighting → Bool
  | world _ => true
  | _ => false

/-- Whether a body counts as a belt. -/
def isBelt : Sighting → Bool
  | belt _ => true
  | _ => false

/-- Whether a body counts as a gas giant. -/
def isGiant : Sighting → Bool
  | giant _ => true
  | _ => false

/-- Whether a body counts as a satellite. -/
def isMoon : Sighting → Bool
  | moon _ => true
  | _ => false

/-- Bodies are of four kinds. -/
lemma length_eq (bodies : List Sighting) : bodies.length = bodies.countP isWorld +
    bodies.countP isBelt + bodies.countP isGiant + bodies.countP isMoon := by
  induction bodies with
  | nil => rfl
  | cons body rest ih =>
    cases body <;> simp only [List.length_cons, List.countP_cons, isWorld, isBelt, isGiant, isMoon,
      ih] <;> simp <;> omega

end Sighting

/-- A body as a survey counts it. -/
def Host.sighting : Host → Sighting
  | world w => .ofWorld w
  | giant g => .giant g

/-- A body and its satellites. -/
def Host.sightings (main : World) (host : Host) : List Sighting :=
  host.sighting :: host.satellites.map fun moon => .moon (moon.body main)

/-- The bodies of a slot. -/
def Slot.sightings (main : World) (content : Slot) : List Sighting :=
  (content.host? main).toList.flatMap (Host.sightings main)

/-- The bodies of a star. -/
def StarSystem.sightings (main : World) (s : StarSystem) : List Sighting :=
  s.slots.flatMap (Slot.sightings main)

/-- The bodies of a tree. -/
def Tree.sightings (main : World) (t : Tree) : List Sighting :=
  t.walk.flatMap (StarSystem.sightings main)

/-! ## Surveys -/

/-- The survey that counts so many stars and these bodies. -/
def Survey.of (stars : Nat) (bodies : List Sighting) : Survey where
  stars := stars
  worlds := bodies.countP Sighting.isWorld
  giants := bodies.countP Sighting.isGiant
  satellites := bodies.countP Sighting.isMoon
  belts := bodies.countP Sighting.isBelt

namespace Survey

variable {main : World} {stars : Nat} {bodies : List Sighting}

/-- Satellites are counted as such. -/
lemma isMoon_comp :
    (Sighting.isMoon ∘ fun moon : Moon World => .moon (moon.body main)) = fun _ => true := rfl

/-- A slot adds its bodies to a survey. -/
lemma addSlot_of (content : Slot) :
    addSlot main (of stars bodies) content = of stars (bodies ++ content.sightings main) := by
  unfold addSlot Slot.sightings
  cases content.host? main with
  | none => simp
  | some host =>
    cases host with
    | giant g =>
      simp [of, Host.sightings, Host.sighting, Host.satellites, List.countP_append,
        List.countP_cons, Sighting.isWorld, Sighting.isBelt, Sighting.isGiant, Sighting.isMoon,
        isMoon_comp]
    | world w =>
      by_cases belt : w.isBelt = true <;>
        simp [of, Host.sightings, Host.sighting, Host.satellites, Sighting.ofWorld, belt,
          List.countP_append, List.countP_cons, Sighting.isWorld, Sighting.isBelt,
          Sighting.isGiant, Sighting.isMoon, isMoon_comp]

/-- Slots add their bodies to a survey. -/
lemma foldl_addSlot_of (slots : List Slot) :
    slots.foldl (addSlot main) (of stars bodies) =
      of stars (bodies ++ slots.flatMap (Slot.sightings main)) := by
  induction slots generalizing bodies with
  | nil => simp
  | cons content rest ih =>
    rw [List.foldl_cons, addSlot_of, ih, List.flatMap_cons, List.append_assoc]

/-- Stars add themselves and their bodies to a survey. -/
lemma foldl_addStar_of (walk : List StarSystem) :
    walk.foldl (addStar main) (of stars bodies) =
      of (stars + walk.length) (bodies ++ walk.flatMap (StarSystem.sightings main)) := by
  induction walk generalizing stars bodies with
  | nil => simp
  | cons s rest ih =>
    have own : addStar main (of stars bodies) s = of (stars + 1) (bodies ++ s.sightings main) :=
      foldl_addSlot_of s.slots
    rw [List.foldl_cons, own, ih, List.flatMap_cons, List.append_assoc, List.length_cons]
    congr 1
    omega

end Survey

namespace Tree

variable (main : World) (t : Tree)

/-- A survey counts the stars and the bodies of a tree. -/
theorem survey_eq : t.survey main = .of t.walk.length (t.sightings main) := by
  have counted : t.walk.foldl (Survey.addStar main) (.of 0 []) =
      .of (0 + t.walk.length) ([] ++ t.sightings main) := Survey.foldl_addStar_of t.walk
  rwa [Nat.zero_add, List.nil_append] at counted

/-- The stars of a tree are as many as a walk meets. -/
theorem countStars_eq : t.countStars = t.walk.length := by
  induction t with
  | absent => rfl
  | node s second third ihSecond ihThird =>
    rw [countStars, walk, ihSecond, ihThird, List.length_cons, List.length_append]
    omega

end Tree

/-! ## Entries -/

namespace Report

/-- What one line of a listing is about: a star of the tree, a star or nothing or a body on an
orbit, or a satellite.  The depth is that of the indentation. -/
inductive Entry where
  | headline (depth : Int) (s : StarSystem)
  | companion (depth orbit : Int) (name : String) (star : Star)
  | empty (depth orbit : Int)
  | world (depth orbit : Int) (w : World)
  | giant (depth orbit : Int) (g : GasGiant)
  | moon (depth : Int) (w : World)

/-- The line of an entry. It fails only where a digit of a world cannot be written. -/
def Entry.line : Entry → Except Fault String
  | headline depth s => .ok (Report.headline depth s)
  | companion depth orbit name star =>
    .ok (indent depth ++ step ++ orbitColumn orbit ++ name ++ " (" ++ star.text ++ ")")
  | empty depth orbit => .ok (indent depth ++ step ++ orbitColumn orbit ++ "Empty")
  | world depth orbit w => do return indent depth ++ (← worldLine orbit w)
  | giant depth orbit g =>
    .ok (indent depth ++ orbitColumn orbit ++ Text.padRight 24 g.name ++ g.size.code)
  | moon depth w => do return indent depth ++ step ++ (← worldLine w.orbit w)

/-- The body that an entry is about, as a survey counts it. -/
def Entry.sighting? : Entry → Option Sighting
  | world _ _ w => some (.ofWorld w)
  | giant _ _ g => some (.giant g)
  | moon _ w => some (.moon w)
  | headline .. | companion .. | empty .. => none

/-- The entry of a body in a slot. -/
def hostEntry (depth orbit : Int) : Host → Entry
  | .world w => .world depth orbit w
  | .giant g => .giant depth orbit g

/-- The entries of a body and its satellites. -/
def hostEntries (main : World) (depth orbit : Int) (host : Host) : List Entry :=
  hostEntry depth orbit host :: host.satellites.map fun moon => .moon depth (moon.body main)

/-- The entries of a slot. An orbit that stays empty has one on request, and an undecided one has
none. -/
def slotEntries (main : World) (showEmpty : Bool) (depth orbit : Int) : Slot → List Entry
  | .undecided => []
  | .empty _ => if showEmpty then [.empty depth orbit] else []
  | .star _ name star => [.companion depth orbit name star]
  | .world w => hostEntries main (depth + 1) orbit (.world w)
  | .giant g => hostEntries main (depth + 1) orbit (.giant g)
  | .main => hostEntries main (depth + 1) orbit (.world main)

/-- The entries of a star. -/
def starEntries (main : World) (showEmpty : Bool) (depth : Int) (s : StarSystem) : List Entry :=
  .headline depth s :: s.numbered.flatMap fun numbered =>
    slotEntries main showEmpty depth numbered.1 numbered.2

end Report

/-- The entries of a listing. The bodies of a star come before its companions, which are one step
further in; so the order is that in which a tree is walked. -/
def Tree.entries (main : World) (showEmpty : Bool) (depth : Int) : Tree → List Report.Entry
  | absent => []
  | node s secondary tertiary => Report.starEntries main showEmpty depth s ++
      (secondary.entries main showEmpty (depth + 1) ++ tertiary.entries main showEmpty (depth + 1))

/-! ## Lines of entries -/

namespace Report

variable {a : Atlas} {main : World}

/-- The lines of a body and its satellites are those of their entries. -/
lemma hostLines_eq (depth orbit : Int) (host : Host) :
    hostLines main depth orbit host = (hostEntries main depth orbit host).mapM Entry.line := by
  have moons : (host.satellites.map fun moon => Entry.moon depth (moon.body main)).mapM Entry.line =
      host.satellites.mapM (moonLine main depth) := List.mapM_map
  rw [hostEntries, List.mapM_cons, moons]
  cases host with
  | giant g => rfl
  | world w =>
    simp only [hostLines, hostEntry, Entry.line]
    cases worldLine orbit w <;> rfl

/-- The lines of a slot, as a listing shows it, are those of its entries. -/
lemma slotLines_eq (showEmpty : Bool) (depth orbit : Int) (content : Slot) :
    slotLines main depth orbit (if content.isEmpty && !showEmpty then .undecided else content) =
      (slotEntries main showEmpty depth orbit content).mapM Entry.line := by
  cases content with
  | world w => exact hostLines_eq (depth + 1) orbit (.world w)
  | giant g => exact hostLines_eq (depth + 1) orbit (.giant g)
  | main => exact hostLines_eq (depth + 1) orbit (.world main)
  | empty i => cases showEmpty <;> rfl
  | _ => rfl

/-- The lines of a star are those of its entries.

**Proof sketch.** A listing that leaves out empty orbits counts their slots as undecided. Those have
no lines, as empty slots have no entries then; so slots and entries agree one by one. -/
lemma starLines_eq (showEmpty : Bool) (depth : Int) (s : StarSystem) :
    starLines main showEmpty depth s = (starEntries main showEmpty depth s).mapM Entry.line := by
  have shown : StarSystem.number (s.shownSlots showEmpty) = s.numbered.map fun numbered =>
      (numbered.1, if numbered.2.isEmpty && !showEmpty then .undecided else numbered.2) := by
    rw [StarSystem.number, StarSystem.shownSlots, List.zipIdx_map, StarSystem.numbered,
      StarSystem.number, List.map_map, List.map_map]
    rfl
  have slots : (StarSystem.number (s.shownSlots showEmpty)).mapM (fun numbered =>
      slotLines main depth numbered.1 numbered.2) = s.numbered.mapM fun numbered =>
        (slotEntries main showEmpty depth numbered.1 numbered.2).mapM Entry.line := by
    simp only [shown, List.mapM_map, Function.comp_def, slotLines_eq]
  rw [starEntries, List.mapM_cons, mapM_flatMap, ← slots, starLines]
  cases (StarSystem.number (s.shownSlots showEmpty)).mapM fun numbered =>
    slotLines main depth numbered.1 numbered.2 <;> rfl

/-- The lines of a tree, read deeply enough, are those of its entries.

**Proof sketch.** By induction on the tree that the chart bears. The lines of a star come first,
those below its companions follow, one level deeper with one unit of fuel less; the first failure
among the three is the first one among the lines of the entries. -/
theorem linesTo_eq {o : Option StarId} {t : Tree} (finite : a.Bears o t) (showEmpty : Bool)
    {fuel : Nat} (deep : t.levels ≤ fuel) (depth : Int) :
    linesTo a showEmpty fuel depth o = (t.entries a.main showEmpty depth).mapM Entry.line := by
  induction finite generalizing fuel depth with
  | absent => cases fuel <;> rfl
  | @node id s t₂ t₃ found _ _ ihSecond ihThird =>
    rw [Tree.levels] at deep
    obtain ⟨fuel, rfl⟩ := Nat.exists_eq_add_of_le' (show 1 ≤ fuel by omega)
    have second : t₂.levels ≤ fuel := by omega
    have third : t₃.levels ≤ fuel := by omega
    rw [Tree.entries, List.mapM_append, List.mapM_append, ← starLines_eq, ← ihSecond second,
      ← ihThird third]
    simp only [linesTo, Atlas.star_eq found, bind, Except.bind]
    cases starLines a.main showEmpty depth s with
    | error e => rfl
    | ok own =>
      cases linesTo a showEmpty fuel (depth + 1) s.secondary with
      | error e => rfl
      | ok lines => cases linesTo a showEmpty fuel (depth + 1) s.tertiary <;> rfl

end Report

/-! ## Counting entries -/

/-- Whether a star holds the orbit. -/
def Slot.isStar : Slot → Bool
  | star .. => true
  | _ => false

namespace Tree

/-- The number of slots of a tree that hold a star. -/
def starSlots (t : Tree) : Nat :=
  (t.walk.map fun s => s.slots.countP Slot.isStar).sum

/-- The number of slots of a tree that are marked to stay empty. -/
def emptySlots (t : Tree) : Nat :=
  (t.walk.map fun s => s.slots.countP Slot.isEmpty).sum

end Tree

namespace Report

variable (main : World) (showEmpty : Bool) (depth orbit : Int)

/-- The bodies among the entries of a body in a slot are itself and its satellites. -/
lemma filterMap_hostEntries (host : Host) :
    (hostEntries main depth orbit host).filterMap Entry.sighting? = host.sightings main := by
  have own : (hostEntry depth orbit host).sighting? = some host.sighting := by cases host <;> rfl
  have moons : Entry.sighting? ∘ (fun moon : Moon World => .moon depth (moon.body main)) =
      some ∘ fun moon => .moon (moon.body main) := rfl
  rw [hostEntries, List.filterMap_cons_some own, List.filterMap_map, moons, List.filterMap_eq_map]
  rfl

/-- The bodies among the entries of a slot are those of the slot. -/
lemma filterMap_slotEntries (content : Slot) :
    (slotEntries main showEmpty depth orbit content).filterMap Entry.sighting? =
      content.sightings main := by
  have body : ∀ host : Host, (hostEntries main (depth + 1) orbit host).filterMap Entry.sighting? =
      [host].flatMap (Host.sightings main) := by
    intro host
    rw [List.flatMap_singleton, filterMap_hostEntries]
  cases content with
  | world w => exact body (.world w)
  | giant g => exact body (.giant g)
  | main => exact body (.world main)
  | empty i => cases showEmpty <;> rfl
  | _ => rfl

/-- The bodies among the entries of a star are those of the star. -/
lemma filterMap_starEntries (s : StarSystem) :
    (starEntries main showEmpty depth s).filterMap Entry.sighting? = s.sightings main := by
  have headline : (Entry.headline depth s).sighting? = none := rfl
  rw [starEntries, List.filterMap_cons_none headline, List.filterMap_flatMap,
    StarSystem.sightings, ← s.map_snd_numbered, List.flatMap_map]
  simp only [filterMap_slotEntries]

/-- The entries of a slot are one for a star, one for an empty orbit on request, and one for each of
its bodies. -/
lemma length_slotEntries (content : Slot) :
    (slotEntries main showEmpty depth orbit content).length =
      (if content.isStar then 1 else 0) + (if content.isEmpty && showEmpty then 1 else 0) +
        (content.sightings main).length := by
  have body : ∀ host : Host, (hostEntries main (depth + 1) orbit host).length =
      0 + 0 + ([host].flatMap (Host.sightings main)).length := by
    intro host
    simp [hostEntries, Host.sightings]
  cases content with
  | world w => exact body (.world w)
  | giant g => exact body (.giant g)
  | main => exact body (.world main)
  | empty i => cases showEmpty <;> rfl
  | _ => rfl

/-- The stars, the empty orbits on request, and the bodies of slots, counted slot by slot. -/
lemma sum_slots (slots : List Slot) : (slots.map fun content =>
    (if content.isStar then 1 else 0) + (if content.isEmpty && showEmpty then 1 else 0) +
      (content.sightings main).length).sum = slots.countP Slot.isStar +
        (if showEmpty then slots.countP Slot.isEmpty else 0) +
        (slots.flatMap (Slot.sightings main)).length := by
  induction slots with
  | nil => simp
  | cons content rest ih =>
    rw [List.map_cons, List.sum_cons, ih, List.countP_cons, List.countP_cons, List.flatMap_cons,
      List.length_append]
    cases showEmpty <;> simp <;> omega

/-- The entries of a star are its own, one for each slot that holds a star, one for each empty orbit
on request, and one for each of its bodies. -/
lemma length_starEntries (s : StarSystem) :
    (starEntries main showEmpty depth s).length = 1 + s.slots.countP Slot.isStar +
      (if showEmpty then s.slots.countP Slot.isEmpty else 0) + (s.sightings main).length := by
  have slots := sum_slots main showEmpty s.slots
  rw [← s.map_snd_numbered, List.map_map, s.map_snd_numbered] at slots
  rw [starEntries, List.length_cons, List.length_flatMap]
  simp only [length_slotEntries]
  rw [StarSystem.sightings]
  simp only [Function.comp_def] at slots
  omega

end Report

namespace Tree

variable (main : World) (showEmpty : Bool) (t : Tree)

/-- The bodies among the entries of a listing are those of the tree, in the same order. -/
theorem filterMap_entries (depth : Int) :
    (t.entries main showEmpty depth).filterMap Report.Entry.sighting? = t.sightings main := by
  induction t generalizing depth with
  | absent => rfl
  | node s second third ihSecond ihThird =>
    rw [entries, List.filterMap_append, List.filterMap_append, Report.filterMap_starEntries,
      ihSecond, ihThird]
    simp only [sightings, walk, List.flatMap_cons, List.flatMap_append]

/-- The entries of a listing are one for each star, one for each slot that holds a star, one for
each empty orbit on request, and one for each body. -/
theorem length_entries (depth : Int) : (t.entries main showEmpty depth).length =
    t.walk.length + t.starSlots + (if showEmpty then t.emptySlots else 0) +
      (t.sightings main).length := by
  induction t generalizing depth with
  | absent => cases showEmpty <;> rfl
  | node s second third ihSecond ihThird =>
    simp only [starSlots, emptySlots, sightings] at ihSecond ihThird
    simp only [entries, starSlots, emptySlots, sightings, walk, List.length_append, ihSecond,
      ihThird, Report.length_starEntries, List.map_cons, List.map_append, List.sum_cons,
      List.sum_append, List.flatMap_cons, List.flatMap_append, List.length_cons]
    cases showEmpty <;> simp <;> omega

end Tree

/-! ## Agreement -/

namespace Report

variable {a : Atlas} {main : World} {id : StarId} {t : Tree}

/-- A world with a profile text has a line. -/
lemma exists_line_of_text {w : World} (encodable : ∃ text, w.profileText = .ok text)
    (orbit : Int) : ∃ line, worldLine orbit w = .ok line := by
  obtain ⟨text, written⟩ := encodable
  simp only [worldLine, written, bind, Except.bind]
  exact ⟨_, rfl⟩

/-- The entries of a body and its satellites have lines if their worlds have profile texts. -/
lemma exists_line_of_mem_host {host : Host} {depth orbit : Int}
    (own : ∀ w, host = .world w → ∃ text, w.profileText = .ok text)
    (moons : ∀ moon ∈ host.satellites, ∃ text, (moon.body main).profileText = .ok text)
    {e : Entry} (mem : e ∈ hostEntries main depth orbit host) : ∃ line, e.line = .ok line := by
  rcases List.mem_cons.mp mem with rfl | mem
  · cases host with
    | giant g => exact ⟨_, rfl⟩
    | world w =>
      obtain ⟨line, written⟩ := exists_line_of_text (own w rfl) orbit
      simp only [hostEntry, Entry.line, written, bind, Except.bind]
      exact ⟨_, rfl⟩
  · obtain ⟨moon, among, rfl⟩ := List.mem_map.mp mem
    obtain ⟨line, written⟩ := exists_line_of_text (moons moon among) (moon.body main).orbit
    simp only [Entry.line, written, bind, Except.bind]
    exact ⟨_, rfl⟩

/-- The entries of a slot have lines if the worlds that it shows have profile texts.

**Proof sketch.** By cases on the content of the slot. Only the lines of worlds can fail, and the
worlds of a slot are the body that stands there, unless it is a gas giant, and its satellites. -/
lemma exists_line_of_mem_slot {content : Slot}
    (encodable : ∀ w ∈ listedWorlds main content, ∃ text, w.profileText = .ok text)
    {showEmpty : Bool} {depth orbit : Int} {e : Entry}
    (mem : e ∈ slotEntries main showEmpty depth orbit content) : ∃ line, e.line = .ok line := by
  have world : ∀ {w : World}, content.host? main = some (.world w) →
      e ∈ hostEntries main (depth + 1) orbit (.world w) → ∃ line, e.line = .ok line := by
    intro w hosted mem
    simp only [listedWorlds, hosted] at encodable
    refine exists_line_of_mem_host (fun v same => ?_) (fun moon among => ?_) mem
    · injection same with same
      exact encodable v (same ▸ List.mem_cons_self)
    · exact encodable _ (List.mem_cons_of_mem _ (List.mem_map_of_mem among))
  cases content with
  | world w => exact world rfl mem
  | main => exact world rfl mem
  | giant g =>
    refine exists_line_of_mem_host (fun _ same => Host.noConfusion same) (fun moon among => ?_) mem
    exact encodable _ (List.mem_map_of_mem among)
  | undecided => exact absurd mem List.not_mem_nil
  | star =>
    obtain rfl := List.mem_singleton.mp mem
    exact ⟨_, rfl⟩
  | empty =>
    cases showEmpty with
    | false => exact absurd mem List.not_mem_nil
    | true =>
      obtain rfl := List.mem_singleton.mp mem
      exact ⟨_, rfl⟩

/-- The entries of a listing have lines if the worlds of the tree have profile texts.

**Proof sketch.** By induction on the tree. The headline always has a line, an entry of a slot has
one by the worlds of the slot, and those of the companions have them by the induction hypothesis. -/
lemma exists_line_of_mem
    (encodable : ∀ s ∈ t.walk, ∀ content ∈ s.slots, ∀ w ∈ listedWorlds main content,
      ∃ text, w.profileText = .ok text) {showEmpty : Bool} {depth : Int} {e : Entry}
    (mem : e ∈ t.entries main showEmpty depth) : ∃ line, e.line = .ok line := by
  induction t generalizing depth with
  | absent => exact absurd mem List.not_mem_nil
  | node s second third ihSecond ihThird =>
    rw [Tree.entries, List.mem_append, List.mem_append] at mem
    rcases mem with own | below | below
    · rcases List.mem_cons.mp own with rfl | own
      · exact ⟨_, rfl⟩
      · obtain ⟨numbered, among, mem⟩ := List.mem_flatMap.mp own
        refine exists_line_of_mem_slot (encodable s List.mem_cons_self numbered.2 ?_) mem
        rw [← s.map_snd_numbered]
        exact List.mem_map_of_mem among
    · exact ihSecond (fun s hs => encodable s
        (List.mem_cons_of_mem _ (List.mem_append_left _ hs))) below
    · exact ihThird (fun s hs => encodable s
        (List.mem_cons_of_mem _ (List.mem_append_right _ hs))) below

/-- A star whose tree is finite is listed by the lines of the entries. -/
lemma exists_render (finite : a.Bears (some id) t)
    (encodable : ∀ s ∈ t.walk, ∀ content ∈ s.slots, ∀ w ∈ listedWorlds a.main content,
      ∃ text, w.profileText = .ok text) (showEmpty : Bool) :
    ∃ lines, render a showEmpty 0 id = .ok lines ∧
      List.Forall₂ (fun e line => e.line = .ok line) (t.entries a.main showEmpty 0) lines := by
  have written : ∀ e ∈ t.entries a.main showEmpty 0, ∃ line, e.line = .ok line := fun e mem =>
    exists_line_of_mem encodable mem
  obtain ⟨lines, listed⟩ := exists_mapM written
  refine ⟨lines, ?_, mapM_eq_ok_iff.mp listed⟩
  rw [render, if_pos (by decide), linesTo_eq finite showEmpty finite.levels_le, listed]

/-- **Listing, survey and tree agree.**  Below a star whose tree is finite, the survey counts the
stars that the tree has, which are those that a walk meets, and counts the bodies of these stars.
If the worlds among them have profile texts, the listing has one line for each star, for each slot
that holds a star, and for each world, belt, gas giant and satellite that the survey counts, and on
request one more for each empty orbit.  Its lines are those of entries, of which exactly one is
about each of these bodies.

**Proof sketch.** Listing and survey are rewritten to the entries and the bodies of the tree, which
are compared by induction on the tree. -/
theorem render_agrees (finite : a.Bears (some id) t)
    (encodable : ∀ s ∈ t.walk, ∀ content ∈ s.slots, ∀ w ∈ listedWorlds a.main content,
      ∃ text, w.profileText = .ok text) :
    a.tree id = .ok t ∧ (t.survey a.main).stars = t.countStars ∧ t.countStars = t.walk.length ∧
      t.survey a.main = .of t.walk.length (t.sightings a.main) ∧
      (∃ lines longer, render a false 0 id = .ok lines ∧ render a true 0 id = .ok longer ∧
        lines.length = (t.survey a.main).stars + t.starSlots + (t.survey a.main).worlds +
          (t.survey a.main).belts + (t.survey a.main).giants + (t.survey a.main).satellites ∧
        longer.length = lines.length + t.emptySlots) ∧
      ∀ showEmpty, ∃ lines, render a showEmpty 0 id = .ok lines ∧
        List.Forall₂ (fun e line => e.line = .ok line) (t.entries a.main showEmpty 0) lines ∧
        (t.entries a.main showEmpty 0).filterMap Entry.sighting? = t.sightings a.main := by
  have survey := t.survey_eq a.main
  obtain ⟨lines, listed, each⟩ := exists_render finite encodable false
  obtain ⟨longer, listedLonger, eachLonger⟩ := exists_render finite encodable true
  refine ⟨Atlas.tree_eq_ok_iff.mpr finite, ?_, t.countStars_eq, survey,
    ⟨lines, longer, listed, listedLonger, ?_, ?_⟩, fun showEmpty => ?_⟩
  · rw [survey, t.countStars_eq]
    rfl
  · rw [← each.length_eq, t.length_entries, Sighting.length_eq, survey]
    simp only [Survey.of, Bool.false_eq_true, if_false]
    omega
  · rw [← each.length_eq, ← eachLonger.length_eq, t.length_entries, t.length_entries]
    simp only [Bool.false_eq_true, if_false, if_true]
    omega
  · obtain ⟨lines, listed, each⟩ := exists_render finite encodable showEmpty
    exact ⟨lines, listed, each, t.filterMap_entries a.main showEmpty 0⟩

/-- Listing, survey and tree agree on a main world with a ring beside a gas giant with a moon, an
empty orbit, a companion in a slot and a belt. -/
theorem render_agrees_regina :
    let main : World := { World.regina with satellites := [.own (.ring 1 0)] }
    let primary : StarSystem := {
      name := "Lusor", star := ⟨.F, 7, .V⟩, maxOrbits := 6, secondary := some 1
      slots := [.main, .giant ⟨"Assiniboia", .large, 1, [.own (.ring 2 1)]⟩, .empty 2,
        .star 1 "Speck" ⟨.M, 8, .D⟩, .world { name := Name.belt, orbit := 4, position := 4 },
        .undecided] }
    let companion : StarSystem := {
      name := "Speck", star := ⟨.M, 8, .D⟩, orbit := 3, maxOrbits := 1, slots := [.empty 0] }
    let a : Atlas := ⟨[primary, companion], main⟩
    let t : Tree := .node primary (.node companion .absent .absent) .absent
    a.Bears (some 0) t ∧
      (∀ s ∈ t.walk, ∀ content ∈ s.slots, ∀ w ∈ listedWorlds main content,
        ∃ text, w.profileText = .ok text) ∧
      a.tree 0 = .ok t ∧ (t.survey main).stars = t.countStars ∧ t.countStars = t.walk.length ∧
      t.survey main = .of t.walk.length (t.sightings main) ∧
      (∃ lines longer, render a false 0 0 = .ok lines ∧ render a true 0 0 = .ok longer ∧
        lines.length = (t.survey main).stars + t.starSlots + (t.survey main).worlds +
          (t.survey main).belts + (t.survey main).giants + (t.survey main).satellites ∧
        longer.length = lines.length + t.emptySlots) ∧
      ∀ showEmpty, ∃ lines, render a showEmpty 0 0 = .ok lines ∧
        List.Forall₂ (fun e line => e.line = .ok line) (t.entries main showEmpty 0) lines ∧
        (t.entries main showEmpty 0).filterMap Entry.sighting? = t.sightings main := by
  intro main primary companion a t
  have finite : a.Bears (some 0) t := .node rfl (.single rfl rfl rfl) .absent
  have encodable : ∀ s ∈ t.walk, ∀ content ∈ s.slots, ∀ w ∈ listedWorlds main content,
      ∃ text, w.profileText = .ok text := by
    have passes : ∀ s ∈ t.walk, ∀ content ∈ s.slots, ∀ w ∈ listedWorlds main content,
        w.profileText.isOk = true := by decide
    intro s hs content hcontent w hw
    have ok := passes s hs content hcontent w hw
    cases text : w.profileText with
    | ok written => exact ⟨written, rfl⟩
    | error e => simp [text, Except.isOk, Except.toBool] at ok
  exact ⟨finite, encodable, render_agrees finite encodable⟩

end Report

end Starchart
