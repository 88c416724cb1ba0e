import Starchart.Proofs.Answers
import Starchart.Proofs.Growth
import Starchart.Report

/-!
# The layout of a chart

Stars get their numbers as they are built, each star before its companions.  The stars below any
star therefore have consecutive numbers, so walking down from a star visits each of them once, and
a listing of them ends.

## Main definitions

* `Starchart.Atlas.Spans` — the stars below a star are those of a stretch of numbers.
* `Starchart.Gen.treePasses` — whether a run ends with a tree that passes a check.
* `Starchart.Gen.runPasses` — whether the end of a run passes a check.

## Main results

* `Starchart.Atlas.Spans.exists_tree` — the tree below a star consists of that stretch.
* `Starchart.Report.exists_full` — a chart whose worlds can be written can be listed.
-/

set_option autoImplicit false

namespace Starchart

namespace Atlas

/-- The stars below a star, or below no star, have exactly the numbers from `lo` up to, but not
including, `hi`, each star before its companions. Stars that are built one after the other are
numbered so, and no star is met twice on the way down. -/
inductive Spans (a : Atlas) : Option StarId → Nat → Nat → Prop
  | absent {lo : Nat} : Spans a none lo lo
  | node {s : StarSystem} {lo mid hi : Nat} (found : a.star? lo = some s)
      (second : Spans a s.secondary (lo + 1) mid) (third : Spans a s.tertiary mid hi) :
      Spans a (some lo) lo hi

namespace Spans

variable {a b : Atlas} {o : Option StarId} {lo hi : Nat}

/-- A stretch of numbers does not run backwards. -/
lemma le (h : a.Spans o lo hi) : lo ≤ hi := by
  induction h with
  | absent => exact Nat.le_refl _
  | node _ _ _ second third => omega

/-- A star spans its own number at least. -/
lemma lt {id : StarId} (h : a.Spans (some id) lo hi) : id = lo ∧ lo < hi := by
  cases h with
  | node found second third => exact ⟨rfl, Nat.lt_of_lt_of_le second.le third.le⟩

/-- The companions of a star that is spanned span the numbers after its own. -/
lemma exists_inner (h : a.Spans o lo hi) {id : Nat} {s : StarSystem} (above : lo ≤ id)
    (below : id < hi) (found : a.star? id = some s) :
    ∃ mid last, a.Spans s.secondary (id + 1) mid ∧ a.Spans s.tertiary mid last := by
  induction h with
  | absent => exact absurd (Nat.lt_of_le_of_lt above below) (Nat.lt_irrefl _)
  | @node t lo mid hi found' second third ihSecond ihThird =>
    by_cases same : id = lo
    · subst same
      obtain rfl := Option.eq_some_unique found found'
      exact ⟨mid, hi, second, third⟩
    · rcases Nat.lt_or_ge id mid with first | later
      · exact ihSecond (by omega) first
      · exact ihThird later below

/-- The companions of a star that is spanned come after it, the tertiary after the secondary. -/
lemma secondary_lt_tertiary (h : a.Spans o lo hi) {id : Nat} {s : StarSystem} {i j : StarId}
    (above : lo ≤ id) (below : id < hi) (found : a.star? id = some s)
    (secondary : s.secondary = some i) (tertiary : s.tertiary = some j) : id < i ∧ i < j := by
  obtain ⟨mid, last, second, third⟩ := h.exists_inner above below found
  rw [secondary] at second
  rw [tertiary] at third
  obtain ⟨rfl, longer⟩ := second.lt
  obtain ⟨rfl, -⟩ := third.lt
  exact ⟨Nat.lt_succ_self id, longer⟩

/-- What stars span depends on their companions alone. -/
lemma congr (h : a.Spans o lo hi)
    (star : ∀ {id : Nat} {s : StarSystem}, lo ≤ id → id < hi → a.star? id = some s →
      ∃ t, b.star? id = some t ∧ t.secondary = s.secondary ∧ t.tertiary = s.tertiary) :
    b.Spans o lo hi := by
  induction h with
  | absent => exact .absent
  | @node s lo mid hi found second third ihSecond ihThird =>
    have := second.le
    have := third.le
    obtain ⟨t, found', secondary, tertiary⟩ := star (Nat.le_refl lo) (by omega) found
    refine .node found' (secondary ▸ ihSecond fun h₁ h₂ => star (by omega) (by omega)) ?_
    exact tertiary ▸ ihThird fun h₁ h₂ => star (by omega) (by omega)

/-- The tree below a star consists of the stars it spans, in the order of their numbers.

**Proof sketch.** By induction on the stretches.  A star is followed by the stretch of its secondary
and that of its tertiary companion, which are both shorter. -/
theorem exists_tree (h : a.Spans o lo hi) (depth : Nat) (deep : hi - lo ≤ depth) :
    ∃ t, a.treeTo depth o = .ok t ∧
      t.walk.map some = (List.range' lo (hi - lo)).map a.star? := by
  induction h generalizing depth with
  | absent => exact ⟨.absent, by simp [treeTo], by simp [Tree.walk]⟩
  | @node s lo mid hi found second third ihSecond ihThird =>
    have := second.le
    have := third.le
    obtain ⟨depth, rfl⟩ := Nat.exists_eq_add_of_le' (show 1 ≤ depth by omega)
    obtain ⟨t₂, tree₂, walk₂⟩ := ihSecond depth (by omega)
    obtain ⟨t₃, tree₃, walk₃⟩ := ihThird depth (by omega)
    refine ⟨.node s t₂ t₃, ?_, ?_⟩
    · simp only [treeTo, star_eq found, tree₂, tree₃, bind, Except.bind]
      rfl
    · have stretch : hi - lo = (mid - (lo + 1)) + (hi - mid) + 1 := by omega
      have joint : mid = lo + 1 + (mid - (lo + 1)) := by omega
      rw [Tree.walk, List.map_cons, List.map_append, walk₂, walk₃, ← List.map_append, stretch,
        List.range'_succ, List.map_cons, found]
      nth_rewrite 2 [joint]
      rw [List.range'_append_1]

end Spans

/-- The tree of a chart whose stars are numbered from its primary star consists of all its stars. -/
theorem exists_tree {a : Atlas} (h : a.Spans (some 0) 0 a.stars.length) :
    ∃ t, a.tree 0 = .ok t ∧ t.walk = a.stars := by
  obtain ⟨t, tree, walk⟩ := h.exists_tree a.stars.length (Nat.le_refl _)
  refine ⟨t, tree, ?_⟩
  have all : (List.range' 0 a.stars.length).map a.star? = a.stars.map some := by
    refine List.ext_getElem (by simp) fun i h₁ h₂ => ?_
    have lt : i < a.stars.length := by simpa using h₂
    simp [star?, lt]
  rw [Nat.sub_zero, all] at walk
  exact List.map_injective_iff.mpr (fun _ _ => Option.some.inj) walk

end Atlas

namespace Gen

variable {σ : Type}

/-- Whether a step ends with a star whose tree, on the chart that it leaves, passes a check. The
check is a program, so that a run on given dice is settled by evaluation. -/
def treePasses (x : Gen σ Atlas StarId) (run : Run σ Atlas) (check : Atlas → Tree → Bool) : Bool :=
  match x run with
  | .error _ _ => false
  | .ok primary after =>
    match after.scene.tree primary with
    | .error _ => false
    | .ok t => check after.scene t

/-- If the tree passes the check, there is one. -/
lemma exists_of_treePasses (x : Gen σ Atlas StarId) (run : Run σ Atlas)
    (check : Atlas → Tree → Bool) (passes : x.treePasses run check = true) :
    ∃ primary after t, x run = .ok primary after ∧ after.scene.tree primary = .ok t ∧
      check after.scene t = true := by
  unfold treePasses at passes
  split at passes
  · cases passes
  · rename_i primary after ran
    split at passes
    · cases passes
    · rename_i t tree
      exact ⟨primary, after, t, ran, tree, passes⟩

variable {ρ α : Type}

/-- Whether a step ends well with a run that passes a check. -/
def runPasses (x : Gen σ ρ α) (run : Run σ ρ) (check : Run σ ρ → Bool) : Bool :=
  match x run with
  | .error _ _ => false
  | .ok _ after => check after

/-- If the end of a run passes the check, then it does however it was come by. -/
lemma check_of_runPasses {x : Gen σ ρ α} {run after : Run σ ρ} {a : α} (check : Run σ ρ → Bool)
    (passes : x.runPasses run check = true) (ran : x run = .ok a after) : check after = true := by
  rwa [runPasses, ran] at passes

end Gen

/-! ## Listings -/

namespace Report

/-- A world whose digits are in range. -/
def Writable (w : World) : Prop := w.profile.InRange (leastSize w.isSatellite)

/-- A writable world has a line. -/
lemma exists_worldLine {w : World} (writable : Writable w) (orbit : Int) :
    ∃ line, worldLine orbit w = .ok line := by
  obtain ⟨text, htext⟩ := World.exists_profileText writable
  simp only [worldLine, htext, bind, Except.bind]
  exact ⟨_, rfl⟩

variable {main : World}

/-- A writable satellite has a line. -/
lemma exists_moonLine {moon : Moon World} (writable : Writable (moon.body main)) (depth : Int) :
    ∃ line, moonLine main depth moon = .ok line := by
  obtain ⟨line, hline⟩ := exists_worldLine writable (moon.body main).orbit
  simp only [moonLine, hline, bind, Except.bind]
  exact ⟨_, rfl⟩

/-- A slot has lines if every world that they show is writable.

**Proof sketch.** The lines of a body are its own line and one for each satellite, all of which show
worlds from the list, so every one of them is written. Marks and stars have a line whatever they
are, and undecided slots have none. -/
lemma exists_slotLines {content : Slot} (writable : ∀ w ∈ listedWorlds main content, Writable w)
    (depth orbit : Int) : ∃ lines, slotLines main depth orbit content = .ok lines := by
  -- the lines of a body are its own and those of its satellites
  have moons : ∀ {host : Host}, content.host? main = some host →
      ∃ lines, host.satellites.mapM (moonLine main (depth + 1)) = .ok lines := by
    intro host hosted
    refine exists_mapM fun moon hm => exists_moonLine (writable _ ?_) _
    have mem : moon.body main ∈ host.satellites.map fun moon => moon.body main :=
      List.mem_map_of_mem hm
    simp only [listedWorlds, hosted]
    cases host with
    | world w => exact List.mem_cons_of_mem _ mem
    | giant g => exact mem
  have world : ∀ {w : World}, content.host? main = some (.world w) →
      ∃ lines, hostLines main (depth + 1) orbit (.world w) = .ok lines := by
    intro w hosted
    obtain ⟨lines, hlines⟩ := moons hosted
    obtain ⟨line, hline⟩ := exists_worldLine (writable w (by simp [listedWorlds, hosted])) orbit
    simp only [hostLines, hline, hlines, bind, Except.bind]
    exact ⟨_, rfl⟩
  cases content with
  | undecided => exact ⟨_, rfl⟩
  | empty => exact ⟨_, rfl⟩
  | star => exact ⟨_, rfl⟩
  | world w => exact world rfl
  | main => exact world rfl
  | giant g =>
    obtain ⟨lines, hlines⟩ := moons rfl
    simp only [slotLines, hostLines, hlines, bind, Except.bind]
    exact ⟨_, rfl⟩

/-- A star has lines if every world that they show is writable. -/
lemma exists_starLines {s : StarSystem}
    (writable : ∀ content ∈ s.slots, ∀ w ∈ listedWorlds main content, Writable w)
    (showEmpty : Bool) (depth : Int) : ∃ lines, starLines main showEmpty depth s = .ok lines := by
  have slots : ∃ lines, (StarSystem.number (s.shownSlots showEmpty)).mapM
      (fun numbered => slotLines main depth numbered.1 numbered.2) = .ok lines := by
    refine exists_mapM fun numbered mem => exists_slotLines ?_ depth numbered.1
    obtain ⟨⟨shown, i⟩, indexed, rfl⟩ := List.mem_map.mp mem
    change ∀ w ∈ listedWorlds main shown, Writable w
    obtain ⟨before, hbefore, rfl⟩ := List.mem_map.mp (List.fst_mem_of_mem_zipIdx indexed)
    split
    · exact fun w hw => absurd hw List.not_mem_nil
    · exact writable before hbefore
  obtain ⟨lines, hlines⟩ := slots
  simp only [starLines, hlines, bind, Except.bind]
  exact ⟨_, rfl⟩

variable {a : Atlas}

/-- The stars below a star have lines if every world that they show is writable. -/
lemma exists_linesTo {o : Option StarId} {lo hi : Nat} (spans : a.Spans o lo hi)
    (writable : ∀ s ∈ a.stars, ∀ content ∈ s.slots, ∀ w ∈ listedWorlds a.main content, Writable w)
    (showEmpty : Bool) (fuel : Nat) (deep : hi - lo ≤ fuel) (depth : Int) :
    ∃ lines, linesTo a showEmpty fuel depth o = .ok lines := by
  induction spans generalizing fuel depth with
  | absent => exact ⟨[], by simp [linesTo]⟩
  | @node s lo mid hi found second third ihSecond ihThird =>
    have := second.le
    have := third.le
    obtain ⟨fuel, rfl⟩ := Nat.exists_eq_add_of_le' (show 1 ≤ fuel by omega)
    obtain ⟨own, hown⟩ := exists_starLines (writable s (List.mem_of_getElem? found)) showEmpty depth
    obtain ⟨lines₂, hlines₂⟩ := ihSecond fuel (by omega) (depth + 1)
    obtain ⟨lines₃, hlines₃⟩ := ihThird fuel (by omega) (depth + 1)
    simp only [linesTo, Atlas.star_eq found, hown, hlines₂, hlines₃, bind, Except.bind]
    exact ⟨_, rfl⟩

/-- A chart has a full listing if every world that it shows is writable. -/
theorem exists_full (spans : a.Spans (some 0) 0 a.stars.length)
    (writable : ∀ s ∈ a.stars, ∀ content ∈ s.slots, ∀ w ∈ listedWorlds a.main content, Writable w)
    (showEmpty : Bool) (diagnostics : List Diagnostic) :
    ∃ report, full a showEmpty 0 diagnostics = .ok report := by
  obtain ⟨t, tree, -⟩ := Atlas.exists_tree spans
  obtain ⟨lines, hlines⟩ := exists_linesTo spans writable showEmpty a.stars.length (Nat.le_refl _) 0
  have rendered : render a showEmpty 0 0 = .ok lines := hlines
  simp only [full, tree, rendered, bind, Except.bind]
  exact ⟨_, rfl⟩

end Report

/-! ## Writable worlds -/

section Writable

variable {σ : Type} [RandomSource σ]

/-- A satellite that fits is writable. -/
lemma Moon.Fits.writable {m : Moon World} {main : World} {star : Star} {position : Int}
    (h : m.Fits σ main star position) (classified : star.Classified)
    (charted : Report.Writable main) : Report.Writable (m.body main) := by
  cases m with
  | main => exact charted
  | own w =>
    rcases h.own_cases classified with ⟨_, rfl⟩ | ⟨raw, isRaw, founded, -⟩
    · have : ({} : Profile).InRange (leastSize true) :=
        ⟨by decide, by decide, by decide, by decide, by decide, by decide, by decide⟩
      exact this
    · exact founded.inRange isRaw charted

/-- Every world that the listing of a sound chart shows is writable.

**Proof sketch.** What a slot lists is its own world, if there is one, and its satellites. A world
that stands in a slot is founded on a raw one, and satellites fit the body they go round; either way
the digits are in range, as those of the main world are. -/
theorem Atlas.Sound.writable {a : Atlas} {seat : Option (StarId × Nat)} (sound : a.Sound σ seat)
    {s : StarSystem} (hs : s ∈ a.stars) {content : Slot} (hcontent : content ∈ s.slots) {w : World}
    (hw : w ∈ Report.listedWorlds a.main content) : Report.Writable w := by
  obtain ⟨id, found⟩ := List.getElem?_of_mem hs
  obtain ⟨i, held⟩ := List.getElem?_of_mem hcontent
  have ofStar := sound.stars found
  have lt := (List.getElem?_eq_some_iff.mp held).1
  have stands := sound.slots found held
  have moon : ∀ {moons : List (Moon World)}, (∀ m ∈ moons, m.Fits σ a.main s.star i) →
      w ∈ (moons.map fun m => m.body a.main) → Report.Writable w := by
    intro moons fits hw
    obtain ⟨m, hm, rfl⟩ := List.mem_map.mp hw
    exact (fits m hm).writable ofStar.classified sound.charted
  cases content with
  | world planet =>
    rcases List.mem_cons.mp hw with rfl | hw
    · obtain ⟨raw, isRaw, founded, -⟩ := stands.exists_raw ofStar lt
      exact founded.inRange isRaw sound.charted
    · cases stands with
      | world rolled moons => exact moon moons hw
  | giant g =>
    cases stands with
    | giant rolled moons => exact moon moons hw
  | main =>
    rcases List.mem_cons.mp hw with rfl | hw
    · exact sound.charted
    · cases stands with
      | main orbit position moons => exact moon moons hw
  | _ => exact absurd hw List.not_mem_nil

end Writable

end Starchart
