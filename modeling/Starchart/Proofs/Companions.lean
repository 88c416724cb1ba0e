import Starchart.Constellation
import Starchart.Proofs.Seat

/-!
# Primary and companion stars

Building the stars of a system never fails.  A companion is rolled, attached to its parent in one of
five ways, and linked; the stars of a system are the primary, up to two companions joined to it,
and around a far companion perhaps one more.

## Main definitions

* `Starchart.Constellation.Attachment` — the ways in which a companion is attached.
* `Starchart.Constellation.Joins` — one more star on a chart.
* `Starchart.Constellation.Outer` — a companion of the primary, perhaps with one of its own.
* `Starchart.Constellation.Built` — charts as they are built.

## Main results

* `Starchart.Constellation.ends_attach` — attaching a companion ends with an attachment.
* `Starchart.Constellation.ends_build` — building the stars of a system ends with a built chart.
-/

set_option autoImplicit false

namespace Starchart

/-! ## Rolled stars -/

section Rolls

variable {σ : Type} [RandomSource σ]

/-- The class of a star does not touch its subtype. -/
lemma Star.classified_corrected {spectral : SpectralType} {subtype : Int}
    {luminosity : LuminosityClass} (low : 0 ≤ subtype) (high : subtype < 10) :
    (Star.corrected ⟨spectral, subtype, luminosity⟩).Classified :=
  ⟨low, Int.le_of_lt_add_one high⟩

/-- No star offers more than twenty orbits. -/
lemma Star.gives_rollCapacity (star : Star) :
    (star.rollCapacity : Roll σ Int).Gives fun room => 0 ≤ room ∧ room ≤ 20 := by
  have modifier : star.capacityModifier ≤ 8 := by
    unfold capacityModifier
    split_ifs <;> split <;> omega
  exact Roll.gives_twoD6.bind fun roll hroll => Roll.gives_pure (by omega)

/-- The number of stars of a system. -/
lemma Star.gives_rollCount :
    (Star.rollCount : Roll σ Nat).Gives fun count => 1 ≤ count ∧ count ≤ 3 := by
  refine Roll.gives_twoD6.bind fun roll _ => Roll.gives_pure ?_
  split_ifs <;> omega

/-- The orbits that a companion may roll. -/
lemma Star.gives_rollSeparation (roll : Int) :
    (Star.rollSeparation roll : Roll σ Int).Gives fun orbit =>
      orbit = Orbit.far ∨ orbit = Orbit.contact ∨ 1 ≤ orbit ∧ orbit ≤ 14 := by
  unfold rollSeparation
  split
  · exact Roll.gives_pure (.inl rfl)
  · split
    · exact Roll.gives_pure (.inr (.inl rfl))
    · split
      · exact Roll.gives_pure (.inr (.inr (by omega)))
      · split
        · exact Roll.gives_d6.bind fun face _ => Roll.gives_pure (.inr (.inr (by omega)))
        · exact Roll.gives_pure (.inl rfl)

end Rolls

namespace StarSystem

/-- A bare star of ordinary class and capacity is sound. -/
lemma sound_bare {star : Star} {room : Int} (classified : star.Classified) (nonneg : 0 ≤ room)
    (le : room ≤ 20) (name : String) (orbit : Int) : (bare name star orbit room).Sound := by
  have length := length_bare name star orbit room
  refine ⟨⟨classified, ?_, by omega⟩, by omega⟩
  rw [length]
  exact (Int.toNat_of_nonneg nonneg).symm

/-- All slots of a bare star are undecided. -/
lemma slots_bare {name : String} {star : Star} {orbit room : Int} {i : Nat} {content : Slot}
    (held : (bare name star orbit room).slots[i]? = some content) : content = .undecided := by
  have mem := List.mem_of_getElem? held
  exact (List.mem_replicate.mp mem).2

/-- A star some of whose undecided orbits were marked to stay empty. This is what clearing the
orbits near a companion does to its parent; no slot that holds something is touched. -/
structure Clears (s t : StarSystem) : Prop where
  frame : t = { s with slots := t.slots }
  length : t.slots.length = s.slots.length
  slot : ∀ {i : Nat} {content : Slot}, t.slots[i]? = some content →
    s.slots[i]? = some content ∨ s.slots[i]? = some .undecided ∧ content = .empty i

/-- Clearing orbits leaves a star alike. -/
lemma Clears.alike {s t : StarSystem} (h : s.Clears t) : s.Alike t := by
  have length := h.length
  rw [h.frame] at length ⊢
  exact ⟨rfl, rfl, rfl, rfl, length, rfl, rfl⟩

/-- Clearing orbits leaves what was decided alone. -/
lemma Clears.kept {s t : StarSystem} (h : s.Clears t) {i : Nat} {content : Slot}
    (held : s.slots[i]? = some content) (decided : content ≠ .undecided) :
    t.slots[i]? = some content := by
  have lt : i < t.slots.length := h.length ▸ (List.getElem?_eq_some_iff.mp held).1
  have held' : t.slots[i]? = some t.slots[i] := List.getElem?_eq_getElem lt
  rcases h.slot held' with same | ⟨free, -⟩
  · rwa [← Option.eq_some_unique same held]
  · exact absurd (Option.eq_some_unique held free) decided

/-- Orbits may be cleared one after the other. -/
lemma Clears.trans {s t u : StarSystem} (h : s.Clears t) (h' : t.Clears u) : s.Clears u where
  frame := by
    rw [h'.frame, h.frame]
  length := h'.length.trans h.length
  slot held := by
    rcases h'.slot held with kept | ⟨free, rfl⟩
    · exact h.slot kept
    · rcases h.slot free with free | ⟨-, wrong⟩
      · exact .inr ⟨free, rfl⟩
      · cases wrong

/-- Marking an orbit to stay empty clears it, if it is undecided. -/
lemma clears_markEmpty (s : StarSystem) (orbit : Int) : s.Clears (s.markEmpty orbit).2 := by
  unfold markEmpty
  split
  · rename_i free
    obtain ⟨j, rfl, hslot⟩ := held_of_isUndecided free
    refine ⟨rfl, List.length_set, fun {i content} held => ?_⟩
    by_cases same : j = i
    · subst same
      have marked := List.getElem?_set_self (a := Slot.empty j) (List.getElem?_eq_some_iff.mp hslot).1
      exact .inr ⟨hslot, Option.eq_some_unique held marked⟩
    · exact .inl ((List.getElem?_set_ne same).symm.trans held)
  · exact ⟨rfl, rfl, .inl⟩

/-- Marking orbits to stay empty clears those that are undecided. -/
lemma clears_markEmpties (s : StarSystem) (orbits : List Int) : s.Clears (s.markEmpties orbits) := by
  induction orbits generalizing s with
  | nil => exact ⟨rfl, rfl, .inl⟩
  | cons orbit rest ih => exact (clears_markEmpty s orbit).trans (ih _)

/-- So does clearing the orbits near a companion. -/
lemma clears_clearNear (s : StarSystem) (orbit : Int) : s.Clears (s.clearNear orbit) :=
  clears_markEmpties s _

end StarSystem

namespace Constellation

/-! ## Attaching companions -/

/-- The ways in which companion `c` is attached to star `p` when it rolled an orbit, each with what
becomes of the two stars. -/
inductive Attachment (p c : StarSystem) (id : StarId) (orbit : Int) :
    StarSystem → StarSystem → Prop
  /-- On the contact orbit, or inside the star. -/
  | contact (isContact : isContactOrbit p orbit = .ok true) :
      Attachment p c id orbit p { c with orbit := Orbit.contact }
  /-- Far out. -/
  | far (isFar : orbit = Orbit.far) :
      Attachment p c id orbit p { c with orbit := Orbit.far }
  /-- On an orbit that the star has no slot for. -/
  | beyond (outside : isContactOrbit p orbit = .ok false) (near : orbit ≠ Orbit.far)
      (noSlot : p.inRange orbit = false) :
      Attachment p c id orbit (p.clearNear orbit) { c with orbit := orbit }
  /-- In an undecided slot. -/
  | placed {i : Nat} (outside : isContactOrbit p orbit = .ok false) (near : orbit ≠ Orbit.far)
      (slot : orbit = i)
      (free : p.slots[i]? = some .undecided) :
      Attachment p c id orbit
        (({ p with slots := p.slots.set i (.star id c.name c.star) } : StarSystem).clearNear i)
        { c with orbit := i }
  /-- On an orbit that is decided already, which leaves the companion far out. -/
  | displaced (outside : isContactOrbit p orbit = .ok false) (near : orbit ≠ Orbit.far)
      (slot : p.inRange orbit = true) (taken : p.isUndecided orbit = false) :
      Attachment p c id orbit p { c with orbit := Orbit.far }

section Attaching

variable {σ : Type} [RandomSource σ] {run : Run σ Atlas} {parent companion : StarId}
  {p c : StarSystem}

/-- Setting the orbit of a known star. -/
lemma ends_setOrbit {Q : Unit → Run σ Atlas → Prop} (orbit : Int)
    (found : run.scene.star? companion = some c) :
    (setOrbit companion orbit : Gen σ Atlas Unit).Ends run Q ↔
      Q () { run with scene := run.scene.setStar companion { c with orbit := orbit } } := by
  rw [setOrbit, Gen.ends_change, Atlas.modifyStar_eq found]

/-- Clearing the orbits near a companion of a known star. -/
lemma ends_clearNear {Q : Unit → Run σ Atlas → Prop} (orbit : Int)
    (found : run.scene.star? parent = some p) :
    (clearNear parent orbit : Gen σ Atlas Unit).Ends run Q ↔
      Q () { run with scene := run.scene.setStar parent (p.clearNear orbit) } := by
  rw [clearNear, Gen.ends_change, Atlas.modifyStar_eq found]

/-- Of two different stars either may be replaced first. -/
lemma setStar_comm {a : Atlas} (ne : parent ≠ companion) (s t : StarSystem) :
    (a.setStar parent s).setStar companion t = (a.setStar companion t).setStar parent s := by
  simp [Atlas.setStar, List.set_comm _ _ ne]

/-- A star that is replaced once more, with another one in between, was replaced at the end. -/
lemma setStar_again {a : Atlas} (ne : parent ≠ companion) (s t u : StarSystem) :
    ((a.setStar parent s).setStar companion t).setStar parent u =
      (a.setStar parent u).setStar companion t := by
  rw [setStar_comm ne, Atlas.setStar_setStar, ← setStar_comm ne]

/-- A contact orbit is told from others by the zones of the star. -/
lemma exists_isContactOrbit (classified : p.star.Classified) (orbit : Int) :
    ∃ contact, isContactOrbit p orbit = .ok contact := by
  obtain ⟨zones, zoned⟩ := classified.exists_zones
  unfold isContactOrbit
  split_ifs
  · exact ⟨_, rfl⟩
  · exact ⟨_, rfl⟩
  · exact ⟨_, by rw [zoned]; rfl⟩

/-- A star can be placed on an undecided orbit of another one. -/
lemma place_star {a : Atlas} (ne : parent ≠ companion) (foundP : a.star? parent = some p)
    (foundC : a.star? companion = some c) (fitted : p.slots.length = p.maxOrbits.toNat) {i : Nat}
    (free : p.slots[i]? = some .undecided) (name : String) (star : Star) :
    a.place parent (.star companion name star) i =
      .ok ((a.setStar parent { p with slots := p.slots.set i (.star companion name star) }).setStar
        companion { c with orbit := i }) := by
  have placed : p.place a.main.name (.star companion name star) i =
      .ok { p with slots := p.slots.set i (.star companion name star) } :=
    StarSystem.place_eq fitted _ free rfl
  have found : (a.setStar parent
      { p with slots := p.slots.set i (.star companion name star) }).star? companion = some c :=
    (Atlas.star?_setStar_of_ne ne.symm _).trans foundC
  rw [← Atlas.modifyStar_eq found fun t => { t with orbit := i }, Atlas.place,
    Atlas.star_eq foundP]
  simp only [bind, Except.bind, placed]
  rfl

/-- A companion that takes an orbit beyond the slots of its parent clears the orbits near it. -/
lemma ends_takeBeyond {β : Type} {k : Unit → Gen σ Atlas β} {Q : β → Run σ Atlas → Prop}
    (ne : parent ≠ companion) (foundP : run.scene.star? parent = some p)
    (foundC : run.scene.star? companion = some c) (orbit : Int) :
    (setOrbit companion orbit >>= fun _ => clearNear parent orbit >>= k).Ends run Q ↔
      (k ()).Ends ⟨run.dice, run.journal, (run.scene.setStar parent (p.clearNear orbit)).setStar
        companion { c with orbit := orbit }⟩ Q := by
  have foundP' : (run.scene.setStar companion { c with orbit := orbit }).star? parent = some p :=
    (Atlas.star?_setStar_of_ne ne _).trans foundP
  rw [Gen.ends_bind, ends_setOrbit _ foundC, Gen.ends_bind, ends_clearNear _ foundP',
    setStar_comm ne]

/-- A companion that takes an undecided slot of its parent clears the orbits near it. -/
lemma ends_takeSlot {β : Type} {k : Unit → Gen σ Atlas β} {Q : β → Run σ Atlas → Prop}
    (ne : parent ≠ companion) (foundP : run.scene.star? parent = some p)
    (foundC : run.scene.star? companion = some c) (fitted : p.slots.length = p.maxOrbits.toNat)
    {i : Nat} (free : p.slots[i]? = some .undecided) (name : String) (star : Star) :
    (Gen.place parent (.star companion name star) i >>= fun _ => clearNear parent i >>= k).Ends
        run Q ↔
      (k ()).Ends ⟨run.dice, run.journal, (run.scene.setStar parent
        (({ p with slots := p.slots.set i (.star companion name star) } : StarSystem).clearNear
          i)).setStar companion { c with orbit := i }⟩ Q := by
  set taking : StarSystem := { p with slots := p.slots.set i (.star companion name star) }
  have foundP' : ((run.scene.setStar parent taking).setStar companion
      { c with orbit := i }).star? parent = some taking :=
    (Atlas.star?_setStar_of_ne ne _).trans (Atlas.star?_setStar_self foundP _)
  rw [Gen.ends_bind, Gen.place, Gen.ends_attempt (place_star ne foundP foundC fitted free _ _),
    Gen.ends_bind]
  refine (ends_clearNear (i : Int) foundP').trans ?_
  rw [setStar_again ne]

/-- Attaching a companion to its parent ends with an attachment and tells the orbit of the
companion.

**Proof sketch.** The orbit is tested in the order of the program text: contact, far, beyond the
slots, undecided, taken. In each case one step sets the orbit of the companion, after the parent was
changed where it takes a slot or has orbits near it marked, and the answer is that orbit, read off
the chart that results. The two stars are different, so that each is found as it was left. -/
theorem ends_attach (ne : parent ≠ companion) (foundP : run.scene.star? parent = some p)
    (foundC : run.scene.star? companion = some c) (classified : p.star.Classified)
    (fitted : p.slots.length = p.maxOrbits.toNat) (orbit : Int) :
    (attach parent companion orbit : Gen σ Atlas Int).Ends run fun seated after =>
      ∃ p' c', Attachment p c companion orbit p' c' ∧ seated = c'.orbit ∧
        after.scene = (run.scene.setStar parent p').setStar companion c' := by
  -- in all cases the orbit of the companion is read off the chart at the end
  have seated : ∀ (journal : Journal) (p' c' : StarSystem),
      Attachment p c companion orbit p' c' →
      (do return (← Gen.star companion).orbit : Gen σ Atlas Int).Ends
        ⟨run.dice, journal, (run.scene.setStar parent p').setStar companion c'⟩
        fun seated after => ∃ p' c', Attachment p c companion orbit p' c' ∧ seated = c'.orbit ∧
          after.scene = (run.scene.setStar parent p').setStar companion c' := by
    intro journal p' c' attached
    have found : ((run.scene.setStar parent p').setStar companion c').star? companion = some c' :=
      Atlas.star?_setStar_self ((Atlas.star?_setStar_of_ne ne.symm _).trans foundC) c'
    rw [Gen.ends_bind, Gen.ends_star found, Gen.ends_pure]
    exact ⟨p', c', attached, rfl, rfl⟩
  have same : run.scene.setStar parent p = run.scene := Atlas.setStar_self foundP
  obtain ⟨contact, isContact⟩ := exists_isContactOrbit classified orbit
  rw [attach, Gen.ends_bind, Gen.ends_star foundP, Gen.ends_bind, Gen.ends_ofExcept isContact]
  dsimp only
  split
  · rename_i inside
    have attached := seated run.journal _ _ (.contact (inside ▸ isContact))
    rw [same] at attached
    rw [Gen.ends_bind, ends_setOrbit _ foundC]
    exact attached
  rename_i notInside
  have outside : isContactOrbit p orbit = .ok false := by
    rw [isContact, Bool.eq_false_iff.mpr notInside]
  split
  · rename_i isFar
    have attached := seated run.journal _ _ (.far isFar)
    rw [same] at attached
    rw [Gen.ends_bind, ends_setOrbit _ foundC]
    exact attached
  rename_i near
  split
  · rename_i noSlot
    rw [ends_takeBeyond ne foundP foundC]
    exact seated _ _ _ (.beyond outside near (by simpa using noSlot))
  rename_i slot
  split
  · rename_i undecided
    obtain ⟨i, rfl, free⟩ := StarSystem.held_of_isUndecided undecided
    have named : run.scene.starSlot companion = .ok (.star companion c.name c.star) := by
      rw [Atlas.starSlot, Atlas.star_eq foundC]
      rfl
    rw [Gen.ends_bind, Gen.ends_scene, Gen.ends_bind, Gen.ends_ofExcept named,
      ends_takeSlot ne foundP foundC fitted free]
    exact seated _ _ _ (.placed outside near rfl free)
  · rename_i taken
    have attached := seated (run.journal ++ [.companionDisplaced orbit p.name c.star]) _ _
      (.displaced outside near (by simpa using slot) (by simpa using taken))
    rw [same] at attached
    rw [Gen.ends_bind, Gen.ends_star foundC, Gen.ends_bind, Gen.ends_record, Gen.ends_bind]
    refine (ends_setOrbit _ (?_ : _ = some c)).mpr ?_
    · exact foundC
    · exact attached

end Attaching

/-! ## Joining companions -/

/-- The chart with a star replaced and a new one after all others. -/
def joined (a : Atlas) (parent : StarId) (p c : StarSystem) : Atlas :=
  { a with stars := a.stars.set parent p ++ [c] }

section Joined

variable {a : Atlas} {parent : StarId} {p p' c c' : StarSystem}

/-- A new star comes after all others. -/
lemma star?_joined_last (a : Atlas) (parent : StarId) (p c : StarSystem) :
    (joined a parent p c).star? a.stars.length = some c := by
  have : a.stars.length = (a.stars.set parent p).length := List.length_set.symm
  rw [this]
  exact List.getElem?_concat_length

/-- The replaced star stands in its old place. -/
lemma star?_joined_parent (lt : parent < a.stars.length) (p c : StarSystem) :
    (joined a parent p c).star? parent = some p :=
  (List.getElem?_append_left (by simpa using lt)).trans (List.getElem?_set_self lt)

/-- Other stars stay as they are. -/
lemma star?_joined_of_ne {id : StarId} (lt : id < a.stars.length) (ne : id ≠ parent)
    (p c : StarSystem) : (joined a parent p c).star? id = a.star? id :=
  (List.getElem?_append_left (by simpa using lt)).trans (List.getElem?_set_ne ne.symm)

/-- There is one star more. -/
@[simp] lemma length_joined (a : Atlas) (parent : StarId) (p c : StarSystem) :
    (joined a parent p c).stars.length = a.stars.length + 1 := by
  simp [joined]

/-- A star of the chart is the replaced one, an older one or the new one. -/
lemma star?_joined_cases (lt : parent < a.stars.length) {id : StarId} {s : StarSystem}
    (found : (joined a parent p c).star? id = some s) :
    id = parent ∧ s = p ∨ a.star? id = some s ∨ id = a.stars.length ∧ s = c := by
  have short : id < a.stars.length + 1 := length_joined a parent p c ▸ Atlas.lt_length found
  rcases Nat.lt_succ_iff_lt_or_eq.mp short with older | rfl
  · by_cases same : id = parent
    · subst same
      exact .inl ⟨rfl, Option.eq_some_unique found (star?_joined_parent lt p c)⟩
    · rw [star?_joined_of_ne older same] at found
      exact .inr (.inl found)
  · exact .inr (.inr ⟨rfl, Option.eq_some_unique found (star?_joined_last a parent p c)⟩)

/-- Replacing the parent again. -/
lemma setStar_joined_parent (lt : parent < a.stars.length) :
    (joined a parent p c).setStar parent p' = joined a parent p' c := by
  simp only [joined, Atlas.setStar]
  rw [List.set_append_left _ _ (by simpa using lt), List.set_set]

/-- Replacing the new star. -/
lemma setStar_joined_last :
    (joined a parent p c).setStar a.stars.length c' = joined a parent p c' := by
  simp only [joined, Atlas.setStar]
  rw [List.set_append_right _ _ (by simp)]
  simp

end Joined

/-- A companion as it is rolled for an orbit: bare, of a class that can exist, and with half the
room if it is nested close to its parent. -/
inductive IsCompanion (depth : Depth) (orbit : Int) : StarSystem → Prop
  | intro {name : String} {type size subtype room : Int} (low : 0 ≤ subtype) (high : subtype < 10)
      (nonneg : 0 ≤ room) (le : room ≤ 20)
      (halved : depth = .nested → orbit ≠ Orbit.far → room ≤ 10) :
      IsCompanion depth orbit (.bare name
        (Star.corrected ⟨Star.companionType type, subtype, Star.companionClass size⟩) orbit room)

/-- A primary star as it is rolled: bare, of a class that can exist, and with room for one orbit at
least. -/
inductive IsPrimary : StarSystem → Prop
  | intro {name : String} {type size subtype room : Int} (low : 0 ≤ subtype) (high : subtype < 10)
      (pos : 1 ≤ room) (le : room ≤ 20) :
      IsPrimary (.bare name
        (Star.corrected ⟨Star.primaryType type, subtype, Star.primaryClass size⟩) Orbit.primary
        room)

/-- The star with a companion linked to it. -/
def linked (s : StarSystem) (tertiary : Bool) (companion : StarId) : StarSystem :=
  if tertiary then { s with tertiary := some companion } else { s with secondary := some companion }

/-- One more star on a chart: it was rolled, attached to its parent and linked. The new star takes
the next free number, and apart from it only the parent differs from before. -/
inductive Joins (parent : StarId) (tertiary : Bool) (depth : Depth) (a : Atlas) : Atlas → Prop
  | intro {p p' c c' : StarSystem} {orbit : Int} (found : a.star? parent = some p)
      (separated : orbit = Orbit.far ∨ orbit = Orbit.contact ∨ 1 ≤ orbit ∧ orbit ≤ 14)
      (rolled : IsCompanion depth orbit c)
      (attached : Attachment p c a.stars.length orbit p' c') :
      Joins parent tertiary depth a (joined a parent (linked p' tertiary a.stars.length) c')

/-- An attachment changes no more of the companion than its orbit. -/
lemma Attachment.companion_eq {p c p' c' : StarSystem} {id : StarId} {orbit : Int}
    (h : Attachment p c id orbit p' c') : c' = { c with orbit := c'.orbit } := by
  cases h <;> rfl

/-- A companion is sound as it is rolled. -/
lemma IsCompanion.sound {depth : Depth} {orbit : Int} {c : StarSystem}
    (h : IsCompanion depth orbit c) : c.Sound := by
  cases h with
  | intro low high nonneg le halved =>
    exact StarSystem.sound_bare (Star.classified_corrected low high) nonneg le _ _

/-- A primary star is sound as it is rolled. -/
lemma IsPrimary.sound {s : StarSystem} (h : IsPrimary s) : s.Sound := by
  cases h with
  | intro low high pos le =>
    exact StarSystem.sound_bare (Star.classified_corrected low high) (by omega) le _ _

/-- A star that joined a chart is sound, and the last one. -/
lemma Joins.exists_companion {parent : StarId} {tertiary : Bool} {depth : Depth} {a b : Atlas}
    (h : Joins parent tertiary depth a b) : ∃ c, b.star? a.stars.length = some c ∧ c.Sound := by
  cases h with
  | @intro p p' c c' orbit found separated rolled attached =>
    refine ⟨c', star?_joined_last _ _ _ _, ?_⟩
    rw [attached.companion_eq]
    have sound := rolled.sound
    exact ⟨⟨sound.classified, sound.capacity, sound.countable⟩, sound.few⟩

/-- A companion of the primary star, and perhaps one of its own around it if it is far. Companions
nest no deeper than that, so that the two cases are all there are. -/
inductive Outer (primary : StarId) (tertiary : Bool) (a : Atlas) : Atlas → Prop
  | single {b : Atlas} (joins : Joins primary tertiary .outer a b) : Outer primary tertiary a b
  | nested {b c : Atlas} {s : StarSystem} (joins : Joins primary tertiary .outer a b)
      (found : b.star? a.stars.length = some s) (far : s.orbit = Orbit.far)
      (again : Joins a.stars.length false .nested b c) :
      Outer primary tertiary a c

/-- Charts as they are built: a primary star alone, or with one or two companions. What holds of
every built chart is proved by cases on this relation, one for each number of companions. -/
inductive Built (main : World) : Atlas → Prop
  | single {s : StarSystem} (primary : IsPrimary s) : Built main ⟨[s], main⟩
  | double {s : StarSystem} {a : Atlas} (primary : IsPrimary s)
      (secondary : Outer 0 false ⟨[s], main⟩ a) : Built main a
  | triple {s : StarSystem} {a b : Atlas} (primary : IsPrimary s)
      (secondary : Outer 0 false ⟨[s], main⟩ a) (tertiary : Outer 0 true a b) : Built main b

section Joining

variable {σ : Type} [RandomSource σ] {run : Run σ Atlas} {parent : StarId} {p : StarSystem}

/-- A new star gets the next number. -/
lemma ends_add {s : StarSystem} {Q : StarId → Run σ Atlas → Prop} :
    (Gen.add s).Ends run Q ↔ Q run.scene.stars.length
      { run with scene := { run.scene with stars := run.scene.stars ++ [s] } } := Iff.rfl

/-- A rolled companion. -/
lemma gives_rollCompanion (rolls : Rolls) (orbit : Int) (depth : Depth) :
    (rollCompanion rolls orbit depth : Roll σ (StarSystem × Rolls)).Gives fun rolled =>
      IsCompanion depth orbit rolled.1 := by
  refine Roll.gives_twoD6.bind fun first _ => Roll.gives_twoD6.bind fun second _ => ?_
  refine Roll.gives_d10.bind fun subtype hsubtype => ?_
  refine (Star.gives_rollCapacity _).bind fun room hroom => ?_
  refine Name.gives_star.bind fun name _ => Roll.gives_pure ?_
  have nonneg : 0 ≤ if depth = .nested ∧ orbit ≠ Orbit.far then room / 2 else room := by
    split_ifs <;> omega
  have le : (if depth = .nested ∧ orbit ≠ Orbit.far then room / 2 else room) ≤ 20 := by
    split_ifs <;> omega
  refine .intro hsubtype.1 hsubtype.2 nonneg le fun nested near => ?_
  rw [if_pos ⟨nested, near⟩]
  omega

/-- A rolled primary star. -/
lemma gives_rollPrimary (bonus : Int) (rolls : Rolls) :
    (rollPrimary bonus rolls : Roll σ (Star × Int)).Gives fun rolled =>
      ∀ name, IsPrimary (.bare name rolled.1 Orbit.primary rolled.2) := by
  refine Roll.gives_d10.bind fun subtype hsubtype => ?_
  refine (Star.gives_rollCapacity _).bind fun room hroom => Roll.gives_pure fun name => ?_
  exact .intro hsubtype.1 hsubtype.2 (by omega) (by omega)

/-- Adding a companion to a known star joins it to the chart as the last star.

**Proof sketch.** The separation and the companion are rolled, and the star is added to the chart
with the next number. Attaching it changes the parent and the new star alone, so that the chart is
the joined one for whatever attaching made of the two; linking changes the parent once more. -/
lemma ends_addCompanion (tertiary : Bool) (rolls : Rolls) (depth : Depth)
    (found : run.scene.star? parent = some p) (regular : p.Regular) :
    (addCompanion parent tertiary rolls depth : Gen σ Atlas (StarId × Rolls)).Ends run
      fun added after => added.1 = run.scene.stars.length ∧
        Joins parent tertiary depth run.scene after.scene := by
  rw [addCompanion, Gen.ends_bind]
  refine Gen.ends_roll Roll.gives_twoD6 fun roll dice _ => ?_
  rw [Gen.ends_bind]
  refine Gen.ends_roll (Star.gives_rollSeparation _) fun orbit dice separated => ?_
  rw [Gen.ends_bind]
  refine Gen.ends_roll (gives_rollCompanion rolls orbit depth) ?_
  rintro ⟨c, next⟩ dice rolled
  dsimp only at rolled ⊢
  have lt := Atlas.lt_length found
  have ne : parent ≠ run.scene.stars.length := Nat.ne_of_lt lt
  have added : { run.scene with stars := run.scene.stars ++ [c] } = joined run.scene parent p c := by
    obtain ⟨lt, rfl⟩ := List.getElem?_eq_some_iff.mp found
    rw [joined, List.set_getElem_self lt]
  rw [Gen.ends_bind, ends_add, added, Gen.ends_bind]
  refine Gen.Ends.mono (ends_attach ne (star?_joined_parent lt p c) (star?_joined_last _ _ p c)
    regular.classified regular.fitted orbit) ?_
  rintro seated ⟨dice', journal, scene⟩ ⟨p', c', attached, -, hscene⟩
  have hscene : scene = joined run.scene parent p' c' := by
    rw [show scene = _ from hscene, setStar_joined_parent lt, setStar_joined_last]
  subst hscene
  have parentFound := star?_joined_parent lt p' c'
  rw [Gen.ends_bind, link, Gen.ends_change, Atlas.modifyStar_eq parentFound,
    setStar_joined_parent lt, Gen.ends_bind]
  refine (Gen.ends_star (star?_joined_parent lt _ c')).mpr ?_
  exact ⟨rfl, .intro found separated rolled attached⟩

/-- Adding a companion to the primary star joins it to the chart, and perhaps another one to it.

**Proof sketch.** The companion is added first. If it is far, a roll decides whether it gets one of
its own, which is added in the same way to a star that has just joined. -/
lemma ends_addOuter (tertiary : Bool) (rolls : Rolls)
    (found : run.scene.star? parent = some p) (regular : p.Regular) :
    (addOuter parent tertiary rolls : Gen σ Atlas Unit).Ends run fun _ after =>
      Outer parent tertiary run.scene after.scene := by
  rw [addOuter, Gen.ends_bind]
  refine (ends_addCompanion tertiary rolls .outer found regular).mono ?_
  rintro ⟨companion, next⟩ mid ⟨same, joins⟩
  dsimp only at same ⊢
  subst same
  obtain ⟨c, foundC, regularC⟩ := joins.exists_companion
  rw [Gen.ends_bind, Gen.ends_star foundC]
  split
  · rename_i far
    rw [Gen.ends_bind]
    refine Gen.ends_roll Star.gives_rollCount fun count dice _ => ?_
    split
    · rw [Gen.ends_bind]
      refine Gen.Ends.mono (ends_addCompanion false next .nested foundC regularC.toRegular) ?_
      rintro _ after ⟨-, again⟩
      exact .nested joins foundC (by simpa [StarSystem.isFar] using far) again
    · exact .single joins
  · exact .single joins

/-- An attachment leaves the parent alike. -/
lemma Attachment.alike {p c p' c' : StarSystem} {id : StarId} {orbit : Int}
    (h : Attachment p c id orbit p' c') : p.Alike p' := by
  cases h with
  | contact => exact .refl p
  | far => exact .refl p
  | displaced => exact .refl p
  | beyond => exact (p.clears_clearNear _).alike
  | placed => exact (p.alike_set _ _).trans (StarSystem.clears_clearNear _ _).alike

/-- Linking a companion leaves a star regular. -/
lemma regular_linked {s : StarSystem} (regular : s.Regular) (tertiary : Bool)
    (companion : StarId) : (linked s tertiary companion).Regular := by
  unfold linked
  split <;> exact ⟨regular.classified, regular.capacity, regular.countable⟩

/-- The parent of a star that joined a chart changed its slots and one link. -/
lemma Joins.exists_parent {parent : StarId} {tertiary : Bool} {depth : Depth} {a b : Atlas}
    {p : StarSystem} (h : Joins parent tertiary depth a b) (found : a.star? parent = some p) :
    ∃ q, p.Alike q ∧ b.star? parent = some (linked q tertiary a.stars.length) := by
  cases h with
  | @intro p₀ p' c c' orbit found' separated rolled attached =>
    obtain rfl := Option.eq_some_unique found found'
    exact ⟨p', attached.alike, star?_joined_parent (Atlas.lt_length found) _ _⟩

/-- A star stays as it is when another one gets a companion. -/
lemma Joins.star?_of_ne {parent : StarId} {tertiary : Bool} {depth : Depth} {a b : Atlas}
    (h : Joins parent tertiary depth a b) {id : StarId} (lt : id < a.stars.length)
    (ne : id ≠ parent) : b.star? id = a.star? id := by
  cases h
  exact star?_joined_of_ne lt ne _ _

/-- A primary star that got a companion changed its slots and one link. -/
lemma Outer.exists_primary {primary : StarId} {tertiary : Bool} {a b : Atlas} {p : StarSystem}
    (h : Outer primary tertiary a b) (found : a.star? primary = some p) :
    ∃ q, p.Alike q ∧ b.star? primary = some (linked q tertiary a.stars.length) := by
  cases h with
  | single joins => exact joins.exists_parent found
  | nested joins foundC far again =>
    obtain ⟨q, alike, found'⟩ := joins.exists_parent found
    have lt := Atlas.lt_length found
    refine ⟨q, alike, ?_⟩
    rw [again.star?_of_ne (Atlas.lt_length found') (Nat.ne_of_lt lt)]
    exact found'

/-- A roll that is made in some cases only. -/
lemma ends_rollIf {α β : Type} {P : α → Prop} {c : Prop} [Decidable c] {x : Roll σ α} {v : α}
    {k : α → Gen σ Atlas β} {Q : β → Run σ Atlas → Prop} (gives : x.Gives P) (fixed : P v)
    (rest : ∀ w dice, P w → (k w).Ends { run with dice := dice } Q) :
    (if c then Gen.roll x >>= k else pure v >>= k).Ends run Q := by
  split
  · rw [Gen.ends_bind]
    exact Gen.ends_roll gives rest
  · rw [Gen.ends_bind, Gen.ends_pure]
    exact rest v run.dice fixed

/-- Building the stars of a system from an empty chart ends with a built one, whose primary star has
the number zero.

**Proof sketch.** The primary star is rolled and becomes number zero of the chart. It is then joined
by as many companions as were rolled: none, a secondary, or a tertiary after a secondary. After the
secondary is attached the primary is still regular, which is all that attaching the tertiary asks
for, and the three outcomes are the three shapes of a built chart. -/
theorem ends_build (bonus : Int) (companions : Bool) (name : Option String)
    (empty : run.scene.stars = []) :
    (build bonus companions name : Gen σ Atlas StarId).Ends run fun primary after =>
      primary = 0 ∧ Built run.scene.main after.scene := by
  -- the chart starts with the primary star alone, and gets the companions that were rolled
  have joining : ∀ (count : Nat) (rolls : Rolls) (s : StarSystem) (mid : Run σ Atlas),
      IsPrimary s → mid.scene = ⟨[s], run.scene.main⟩ → (do
        if 1 < count then addOuter 0 false rolls
        if 2 < count then addOuter 0 true rolls
        return 0 : Gen σ Atlas StarId).Ends mid
          fun primary after => primary = 0 ∧ Built run.scene.main after.scene := by
    rintro count rolls s ⟨dice, journal, scene⟩ primary rfl
    have regular := primary.sound.toRegular
    have found : (⟨[s], run.scene.main⟩ : Atlas).star? 0 = some s := rfl
    dsimp only
    split
    · rw [Gen.ends_bind]
      apply Gen.Ends.mono (ends_addOuter false rolls found regular)
      intro _ mid secondary
      obtain ⟨q, alike, found'⟩ := secondary.exists_primary found
      have regular' := regular_linked (alike.regular regular) false 1
      split
      · rw [Gen.ends_bind]
        apply Gen.Ends.mono (ends_addOuter true rolls found' regular')
        exact fun _ after tertiary => ⟨rfl, .triple primary secondary tertiary⟩
      · exact ⟨rfl, .double primary secondary⟩
    · split
      · omega
      · exact ⟨rfl, .single primary⟩
  rw [build]
  refine ends_rollIf Star.gives_rollCount ⟨by decide, by decide⟩ fun count dice _ => ?_
  rw [Gen.ends_bind]
  refine Gen.ends_roll Roll.gives_twoD6 fun type dice _ => ?_
  rw [Gen.ends_bind]
  refine Gen.ends_roll Roll.gives_twoD6 fun size dice _ => ?_
  rw [Gen.ends_bind]
  refine Gen.ends_roll (gives_rollPrimary bonus ⟨type, size⟩) ?_
  rintro ⟨star, capacity⟩ dice rolled
  cases name with
  | some name =>
    rw [Gen.ends_bind, Gen.ends_pure, Gen.ends_bind, ends_add, empty, Gen.ends_bind,
      Gen.ends_record]
    exact joining count _ _ _ (rolled name) rfl
  | none =>
    rw [Gen.ends_bind]
    refine Gen.ends_roll Name.gives_star fun name dice _ => ?_
    rw [Gen.ends_bind, ends_add, empty, Gen.ends_bind, Gen.ends_record]
    exact joining count _ _ _ (rolled name) rfl

end Joining

end Constellation

end Starchart
