import Starchart.Proofs.Fresh
import Starchart.Proofs.Layout
import Starchart.Proofs.StarTables
import Starchart.Random.Congruential

/-!
# The shape of a constellation

A system is built with one to five stars on at most three levels: the primary star has up to two
companions, and each of these that is far has at most one of its own, which has none.  Every star of
the system is one that the tables know, and has an ordinary number of orbits.

## Main definitions

* `Starchart.Tree.levels` — the number of levels of a tree.
* `Starchart.Tree.Outlying` — the trees below the primary star.
* `Starchart.Atlas.Bears` — the tree that stands below a star.

## Main results

* `Starchart.Constellation.Built.exists_bears` — the tree below the primary star of a built chart.
* `Starchart.Constellation.exists_tree_of_build` — building a system ends with such a tree.
-/

set_option autoImplicit false

namespace Starchart

/-! ## Trees -/

namespace Tree

/-- The number of levels of a tree. -/
def levels : Tree → Nat
  | absent => 0
  | node _ secondary tertiary => 1 + max secondary.levels tertiary.levels

/-- What may stand below either link of a primary star: nothing, a companion alone, or a far
companion with one of its own.  The latter has at most ten orbits, unless it is far as well. -/
inductive Outlying : Tree → Prop
  | absent : Outlying absent
  | single {c : StarSystem} : Outlying (node c absent absent)
  | nested {c d : StarSystem} (far : c.orbit = Orbit.far)
      (room : d.orbit ≠ Orbit.far → d.maxOrbits ≤ 10) :
      Outlying (node c (node d absent absent) absent)

variable {t u : Tree}

/-- Two stars at most stand below a link of a primary star. -/
lemma Outlying.countStars_le (h : t.Outlying) : t.countStars ≤ 2 := by
  cases h <;> simp [countStars]

/-- They stand on two levels at most. -/
lemma Outlying.levels_le (h : t.Outlying) : t.levels ≤ 2 := by
  cases h <;> simp [levels]

/-- A primary star with what stands below its links has one to five stars. -/
lemma countStars_node (h : t.Outlying) (h' : u.Outlying) (root : StarSystem) :
    1 ≤ (node root t u).countStars ∧ (node root t u).countStars ≤ 5 := by
  have := h.countStars_le
  have := h'.countStars_le
  simp only [countStars]
  omega

/-- They stand on three levels at most. -/
lemma levels_node (h : t.Outlying) (h' : u.Outlying) (root : StarSystem) :
    (node root t u).levels ≤ 3 := by
  have := h.levels_le
  have := h'.levels_le
  simp only [levels]
  omega

end Tree

/-- The tree of the stars below a star, or below no star. A chart links its stars by number, and
this relation follows the links, so that it holds of finite trees only. -/
inductive Atlas.Bears (a : Atlas) : Option StarId → Tree → Prop
  | absent : Bears a none .absent
  | node {id : StarId} {s : StarSystem} {t u : Tree} (found : a.star? id = some s)
      (second : Bears a s.secondary t) (third : Bears a s.tertiary u) :
      Bears a (some id) (.node s t u)

namespace Atlas.Bears

variable {a : Atlas} {id : StarId} {s : StarSystem}

/-- A star without companions stands alone. -/
lemma single (found : a.star? id = some s) (secondary : s.secondary = none)
    (tertiary : s.tertiary = none) : a.Bears (some id) (.node s .absent .absent) := by
  refine .node found ?_ ?_
  · rw [secondary]
    exact .absent
  · rw [tertiary]
    exact .absent

/-- The tree below a star that is read off a chart is the one that stands there.

**Proof sketch.** By induction on the tree that stands there. Reading goes down the same two links,
so whatever is read below them is known by the hypotheses. -/
lemma eq_of_treeTo {o : Option StarId} {t u : Tree} {depth : Nat} (h : a.Bears o t)
    (tree : a.treeTo depth o = .ok u) : u = t := by
  induction h generalizing depth u with
  | absent =>
    cases depth <;> cases tree <;> rfl
  | @node id s t₂ t₃ found second third ihSecond ihThird =>
    cases depth with
    | zero => cases tree
    | succ depth =>
      simp only [treeTo, star_eq found, bind, Except.bind] at tree
      cases below₂ : a.treeTo depth s.secondary with
      | error e => simp [below₂] at tree
      | ok u₂ =>
        cases below₃ : a.treeTo depth s.tertiary with
        | error e => simp [below₂, below₃] at tree
        | ok u₃ =>
          simp only [below₂, below₃] at tree
          cases tree
          rw [ihSecond below₂, ihThird below₃]

end Atlas.Bears

namespace Constellation

variable {a b : Atlas} {parent : StarId} {p : StarSystem} {tertiary : Bool} {depth : Depth}

/-! ## Known stars -/

/-- The tables know a primary star as it is rolled. -/
lemma IsPrimary.known (h : IsPrimary p) : p.star.Known := by
  cases h with
  | intro low high pos le => exact Star.known_corrected low high (Star.primaryType_ne _)

/-- They know a companion as it is rolled. -/
lemma IsCompanion.known {orbit : Int} {c : StarSystem} (h : IsCompanion depth orbit c) :
    c.star.Known := by
  cases h with
  | intro low high nonneg le halved =>
    exact Star.known_corrected low high (Star.companionType_ne _)

/-- If the tables know all stars of a chart, they do when a companion joins it. -/
lemma Joins.known (h : Joins parent tertiary depth a b) (found : a.star? parent = some p)
    (known : ∀ {id : StarId} {s : StarSystem}, a.star? id = some s → s.star.Known)
    {id : StarId} {s : StarSystem} (after : b.star? id = some s) : s.star.Known := by
  cases h with
  | @intro p₀ p' c c' orbit found' separated rolled attached =>
    obtain rfl := Option.eq_some_unique found found'
    rcases star?_joined_cases (Atlas.lt_length found) after with
      ⟨rfl, rfl⟩ | before | ⟨rfl, rfl⟩
    · rw [(linked_class p' tertiary _).2, attached.alike.star]
      exact known found
    · exact known before
    · rw [attached.companion_eq]
      exact rolled.known

/-- So they do when a companion of the primary star does, perhaps with one of its own. -/
lemma Outer.known (h : Outer parent tertiary a b) (found : a.star? parent = some p)
    (known : ∀ {id : StarId} {s : StarSystem}, a.star? id = some s → s.star.Known)
    {id : StarId} {s : StarSystem} (after : b.star? id = some s) : s.star.Known := by
  cases h with
  | single joins => exact joins.known found known after
  | nested joins foundC far again =>
    exact again.known foundC
      (fun before => joins.known found known before) after

/-- The tables know all stars of a built chart.

**Proof sketch.** The tables know a primary star that is alone, and they know all stars still when
an outer companion joins, with or without one of its own. -/
theorem Built.known {main : World} (h : Built main a) {id : StarId} {s : StarSystem}
    (found : a.star? id = some s) : s.star.Known := by
  have alone : ∀ {p : StarSystem}, IsPrimary p → ∀ {id : StarId} {s : StarSystem},
      (⟨[p], main⟩ : Atlas).star? id = some s → s.star.Known := by
    intro p primary id s before
    obtain rfl : s = p := List.mem_singleton.mp (List.mem_of_getElem? before)
    exact primary.known
  cases h with
  | single primary => exact alone primary found
  | double primary secondary =>
    exact secondary.known rfl (fun before => alone primary before) found
  | @triple p mid _ primary secondary tertiary =>
    have start : (⟨[p], main⟩ : Atlas).star? 0 = some p := rfl
    obtain ⟨q, alike, foundQ⟩ := secondary.exists_primary start
    exact tertiary.known foundQ
      (fun known => secondary.known start (fun before => alone primary before) known) found

/-! ## Trees of built charts -/

/-- A companion of a companion has at most ten orbits, unless it is far.

**Proof sketch.** The companion was rolled for the orbit that it was given, and that orbit was not
far, as it would have stayed far. For any other one its room is halved, and twenty is the most. -/
lemma Joins.maxOrbits_le (h : Joins parent tertiary .nested a b) {c : StarSystem}
    (found : b.star? a.stars.length = some c) (near : c.orbit ≠ Orbit.far) :
    c.maxOrbits ≤ 10 := by
  cases h with
  | @intro p p' d d' orbit found' separated rolled attached =>
    obtain rfl := Option.eq_some_unique (star?_joined_last _ _ _ _) found
    have close : orbit ≠ Orbit.far := by
      rintro rfl
      cases attached with
      | contact isContact => cases isContact
      | far => exact near rfl
      | beyond outside close => exact close rfl
      | placed outside close => exact close rfl
      | displaced outside close => exact close rfl
    cases rolled with
    | intro low high nonneg le halved =>
      rw [attached.companion_eq]
      exact halved rfl close

/-- What stands below a link of the primary star, on every chart that has the stars that joined.

**Proof sketch.** The star that joined has no companions of its own, unless it is far: then another
one may have joined it in turn, which has none. The tree consists of one or two stars accordingly,
with numbers from the first one that joined up, and any chart that has these stars bears it. -/
lemma Outer.exists_bears (h : Outer parent tertiary a b) :
    ∃ t, t.Outlying ∧ t ≠ .absent ∧ ∀ c : Atlas,
      (∀ id : Nat, a.stars.length ≤ id → id < b.stars.length → c.star? id = b.star? id) →
        c.Bears (some a.stars.length) t := by
  cases h with
  | single joins =>
    obtain ⟨c, found, secondary, tertiary⟩ := joins.exists_last
    refine ⟨.node c .absent .absent, .single, Tree.noConfusion, fun later same => ?_⟩
    have lt := Atlas.lt_length found
    exact .single ((same _ (Nat.le_refl _) lt).trans found) secondary tertiary
  | @nested mid _ s joins found far again =>
    obtain ⟨c, foundC, -, tertiary⟩ := joins.exists_last
    obtain rfl := Option.eq_some_unique found foundC
    obtain ⟨q, alike, foundQ⟩ := again.exists_parent foundC
    obtain ⟨d, foundD, secondaryD, tertiaryD⟩ := again.exists_last
    have room := again.maxOrbits_le foundD
    have length := joins.length_eq
    refine ⟨.node (linked q false mid.stars.length) (.node d .absent .absent) .absent,
      .nested (alike.orbit.trans far) room, Tree.noConfusion, fun later same => ?_⟩
    have ltQ := Atlas.lt_length foundQ
    have ltD := Atlas.lt_length foundD
    refine .node ((same _ (Nat.le_refl _) ltQ).trans foundQ) ?_ ?_
    · exact .single ((same _ (by omega) ltD).trans foundD) secondaryD tertiaryD
    · rw [show (linked q false _).tertiary = none from alike.tertiary.trans tertiary]
      exact .absent

/-- The tree of a built chart: what stands below the links of the primary star, where there is a
tertiary companion only beside a secondary one.

**Proof sketch.** By cases on how the chart was built. What joined the primary star stands below the
link that it was given. A tertiary companion joins after a secondary one and leaves all stars alone
that joined before it, so that the secondary tree stands on the final chart as well. -/
theorem Built.exists_bears {main : World} (h : Built main a) : ∃ root second third,
    a.Bears (some 0) (.node root second third) ∧ second.Outlying ∧ third.Outlying ∧
      (second = .absent → third = .absent) := by
  cases h with
  | single primary =>
    obtain ⟨-, -, -, second, third, -, -⟩ := primary.fields
    exact ⟨_, .absent, .absent, .single rfl second third, .absent, .absent, fun _ => rfl⟩
  | @double p _ primary secondary =>
    obtain ⟨-, -, -, second, third, -, -⟩ := primary.fields
    have start : (⟨[p], main⟩ : Atlas).star? 0 = some p := rfl
    obtain ⟨q, alike, found⟩ := secondary.exists_primary start
    obtain ⟨t, outlying, -, bears⟩ := secondary.exists_bears
    refine ⟨_, t, .absent, .node found (bears a fun _ _ _ => rfl) ?_, outlying, .absent,
      fun _ => rfl⟩
    rw [show (linked q false _).tertiary = none from alike.tertiary.trans third]
    exact .absent
  | @triple p mid _ primary secondary tertiary =>
    have start : (⟨[p], main⟩ : Atlas).star? 0 = some p := rfl
    obtain ⟨q, alike, foundQ⟩ := secondary.exists_primary start
    obtain ⟨r, alike', foundR⟩ := tertiary.exists_primary foundQ
    obtain ⟨t, outlying, some, bears⟩ := secondary.exists_bears
    obtain ⟨u, outlying', -, bears'⟩ := tertiary.exists_bears
    refine ⟨_, t, u, .node foundR ?_ (bears' a fun _ _ _ => rfl), outlying, outlying',
      fun none => absurd none some⟩
    rw [show (linked r true mid.stars.length).secondary = Option.some 1 from alike'.secondary]
    -- the third star leaves those below the second one alone
    exact bears a fun id above below => tertiary.star?_of_ne below (Nat.ne_of_gt above)

/-! ## Building a system -/

variable {σ : Type} [RandomSource σ] [Inexhaustible σ]

/-- **The shape of a constellation.**  Whatever the bonus, and whether or not companions are
allowed, building a system ends with a tree of one to five stars on at most three levels.  Only far
companions of the root have a companion, which is their only one and has none; a tertiary companion
stands beside a secondary one.  The root has one to twenty orbits, any other star none to twenty,
and a companion of a companion ten at most unless it is far.  A slot is undecided, or empty with its
own number, or holds a companion of the star with the number of the slot as its orbit.  All tables
know the stars of the tree.

**Proof sketch.** A star is rolled with its class corrected, so that the tables know it, and with
its orbits counted; when it joins the chart, it changes no class, and its parent has a free link. -/
theorem exists_tree_of_build (bonus : Int) (companions : Bool) (name : Option String)
    (main : World) (dice : Dice σ) (journal : Journal) : ∃ primary run root second third,
      build bonus companions name ⟨dice, journal, ⟨[], main⟩⟩ = .ok primary run ∧
        run.scene.tree primary = .ok (.node root second third) ∧
        (1 ≤ (Tree.node root second third).countStars ∧
          (Tree.node root second third).countStars ≤ 5) ∧
        (Tree.node root second third).levels ≤ 3 ∧
        second.Outlying ∧ third.Outlying ∧ (second = .absent → third = .absent) ∧
        (1 ≤ root.maxOrbits ∧ root.maxOrbits ≤ 20) ∧
        ∀ s ∈ (Tree.node root second third).walk,
          (0 ≤ s.maxOrbits ∧ s.maxOrbits ≤ 20 ∧ (s.slots.length : Int) = s.maxOrbits) ∧
          (∀ (i : Nat) (content : Slot), s.slots[i]? = some content →
            content.Barren run.scene s i) ∧
          s.star.Known := by
  have builds : (build bonus companions name).Ends ⟨dice, journal, ⟨[], main⟩⟩ fun primary after =>
      primary = 0 ∧ Built main after.scene := ends_build bonus companions name rfl
  obtain ⟨primary, run, ran, rfl, built⟩ := builds.exists_ok
  obtain ⟨root, second, third, bears, outlying, outlying', beside⟩ := built.exists_bears
  obtain ⟨t, tree, walk⟩ := Atlas.exists_tree built.spans
  obtain rfl := bears.eq_of_treeTo tree
  obtain ⟨s, found, room⟩ := built.exists_root
  have charted : ∀ {id : StarId} {s : StarSystem}, run.scene.star? id = some s →
      0 ≤ s.maxOrbits ∧ s.maxOrbits ≤ 20 ∧ (s.slots.length : Int) = s.maxOrbits := by
    intro id s found
    have sound := (built.fresh found).sound
    have capacity := sound.capacity
    have few := sound.few
    omega
  refine ⟨0, run, root, second, third, ran, tree, Tree.countStars_node outlying outlying' root,
    Tree.levels_node outlying outlying' root, outlying, outlying', beside, ?_, fun s hs => ?_⟩
  · cases bears with
    | node foundRoot =>
      obtain rfl := Option.eq_some_unique found foundRoot
      have counted := charted found
      omega
  · rw [walk] at hs
    obtain ⟨id, found⟩ := List.getElem?_of_mem hs
    exact ⟨charted found, fun i content held => (built.fresh found).slots held, built.known found⟩

/-- The constellation that is built with this source has such a tree. -/
theorem exists_tree_of_build_triple : ∃ primary run root second third,
    build 0 true none (⟨⟨(⟨7550⟩ : Congruential), []⟩, [], ⟨[], default⟩⟩ :
      Run Congruential Atlas) = .ok primary run ∧
        run.scene.tree primary = .ok (.node root second third) ∧
        (1 ≤ (Tree.node root second third).countStars ∧
          (Tree.node root second third).countStars ≤ 5) ∧
        (Tree.node root second third).levels ≤ 3 ∧
        second.Outlying ∧ third.Outlying ∧ (second = .absent → third = .absent) ∧
        (1 ≤ root.maxOrbits ∧ root.maxOrbits ≤ 20) ∧
        ∀ s ∈ (Tree.node root second third).walk,
          (0 ≤ s.maxOrbits ∧ s.maxOrbits ≤ 20 ∧ (s.slots.length : Int) = s.maxOrbits) ∧
          (∀ (i : Nat) (content : Slot), s.slots[i]? = some content →
            content.Barren run.scene s i) ∧
          s.star.Known :=
  exists_tree_of_build 0 true none default _ _

end Constellation

end Starchart
