import Starchart.Proofs.Calls
import Starchart.Random.Congruential

/-!
# Attaching a companion to any star

A companion may be attached to a star in the middle of anything, on any number: orbits that the star has
no slot for, negative ones, and orbits that hold something already.  Where it ends up is told by the
number, the inside of the star and the slot alone.  Only undecided slots change, and those are the slot
of the companion and the ones near it.

## Main definitions

* `Starchart.Orbit.IsNumbered` — orbits that are neither contact nor far.
* `Starchart.StarSystem.seatFor` — where a companion ends up that was meant for an orbit.
* `Starchart.StarSystem.Seats` — the slots that a companion stands in.
* `Starchart.Constellation.Attached` — what attaching a companion comes to.

## Main results

* `Starchart.Constellation.attach_attaches` — attaching a companion ends so on any star.
-/

set_option autoImplicit false

namespace Starchart

/-- An orbit that is a number, and not one of those that stand for contact and far companions. -/
def Orbit.IsNumbered (orbit : Int) : Prop :=
  orbit ≠ Orbit.contact ∧ orbit ≠ Orbit.far

/-- A companion has no body near itself but on both sides of it. -/
lemma Orbit.IsNear.ne {orbit other : Int} (near : Orbit.IsNear orbit other) : other ≠ orbit := by
  unfold Orbit.IsNear at near
  omega

namespace StarSystem

/-- Where a companion ends up that was meant for an orbit of a star: it is contact on the contact
orbit and inside of the star, and far if it was meant to be or the slot is taken. -/
def seatFor (s : StarSystem) (zones : Zones) (orbit : Int) : Int :=
  if orbit = Orbit.contact ∨ orbit ≠ Orbit.far ∧ orbit ≤ zones.inside then Orbit.contact
  else if orbit = Orbit.far ∨ s.inRange orbit = true ∧ s.isUndecided orbit = false then Orbit.far
  else orbit

/-- A companion stands in slot `i` of a star. -/
def Seats (s : StarSystem) (companion : StarId) (i : Nat) : Prop :=
  ∃ name star, s.slots[i]? = some (.star companion name star)

variable {s : StarSystem}

/-- The number of a slot is in range. -/
lemma inRange_of_getElem? (fitted : s.slots.length = s.maxOrbits.toNat) {i : Nat} {content : Slot}
    (held : s.slots[i]? = some content) : s.inRange i = true := by
  have lt := (List.getElem?_eq_some_iff.mp held).1
  simp only [inRange, Bool.and_eq_true, decide_eq_true_eq]
  omega

end StarSystem

namespace Constellation

/-! ## Where a companion ends up -/

section Seats

variable {p c p' c' : StarSystem} {companion : StarId} {orbit : Int} {zones : Zones}

/-- An orbit is contact by its number, or because it lies inside of the star. -/
lemma isContactOrbit_eq (zoned : p.star.zones = .ok zones) : isContactOrbit p orbit =
    .ok (decide (orbit = Orbit.contact ∨ orbit ≠ Orbit.far ∧ orbit ≤ zones.inside)) := by
  unfold isContactOrbit
  split
  · rename_i contact
    rw [decide_eq_true (.inl contact)]
  · rename_i other
    split
    · rename_i far
      rw [decide_eq_false (not_or.mpr ⟨other, fun close => close.1 far⟩)]
    · rename_i close
      simp only [zoned, Except.map, other, close, ne_eq, not_false_eq_true, true_and, false_or]

/-- An orbit that is not contact has another number and lies outside of the star. -/
lemma isContactOrbit_eq_false_iff (zoned : p.star.zones = .ok zones) :
    isContactOrbit p orbit = .ok false ↔
      ¬(orbit = Orbit.contact ∨ orbit ≠ Orbit.far ∧ orbit ≤ zones.inside) := by
  rw [isContactOrbit_eq zoned, Except.ok.injEq, decide_eq_false_iff_not]

/-- The orbit of an attached companion.

**Proof sketch.** By cases on the attachment. The conditions on the orbit that the cases come with
are the ones that are tested, in the same order: contact first, since no orbit is contact and far,
then far or taken, and the number itself where neither holds. -/
lemma Attachment.orbit_eq (h : Attachment p c companion orbit p' c')
    (fitted : p.slots.length = p.maxOrbits.toNat) (zoned : p.star.zones = .ok zones) :
    c'.orbit = p.seatFor zones orbit := by
  unfold StarSystem.seatFor
  cases h with
  | contact isContact =>
    rw [isContactOrbit_eq zoned, Except.ok.injEq, decide_eq_true_iff] at isContact
    rw [if_pos isContact]
  | far isFar =>
    have apart : ¬(orbit = Orbit.contact ∨ orbit ≠ Orbit.far ∧ orbit ≤ zones.inside) := by
      rintro (contact | ⟨close, -⟩)
      · exact absurd (isFar.symm.trans contact) (by decide)
      · exact close isFar
    rw [if_neg apart, if_pos (.inl isFar)]
  | beyond outside near noSlot =>
    have free : ¬(orbit = Orbit.far ∨ p.inRange orbit = true ∧ p.isUndecided orbit = false) := by
      simp [near, noSlot]
    rw [if_neg ((isContactOrbit_eq_false_iff zoned).mp outside), if_neg free]
  | @placed i outside near slot held =>
    have undecided : p.isUndecided orbit = true :=
      (StarSystem.isUndecided_iff fitted).mpr ⟨i, slot, held⟩
    have free : ¬(orbit = Orbit.far ∨ p.inRange orbit = true ∧ p.isUndecided orbit = false) := by
      simp [near, undecided]
    rw [if_neg ((isContactOrbit_eq_false_iff zoned).mp outside), if_neg free, slot]
  | displaced outside near slot taken =>
    rw [if_neg ((isContactOrbit_eq_false_iff zoned).mp outside), if_pos (.inr ⟨slot, taken⟩)]

/-- A companion that is neither contact nor far keeps the orbit that it was meant for, which is not
the innermost one. -/
lemma Attachment.orbit_kept (h : Attachment p c companion orbit p' c')
    (classified : p.star.Classified) (numbered : Orbit.IsNumbered c'.orbit) :
    c'.orbit = orbit ∧ 1 ≤ orbit := by
  cases h with
  | contact => exact absurd rfl numbered.1
  | far => exact absurd rfl numbered.2
  | beyond outside near => exact ⟨rfl, Call.pos_of_isContactOrbit classified outside near⟩
  | placed outside near slot =>
    exact ⟨slot.symm, Call.pos_of_isContactOrbit classified outside near⟩
  | displaced => exact absurd rfl numbered.2

/-- A companion that is contact or far leaves its parent as it was. -/
lemma Attachment.parent_eq (h : Attachment p c companion orbit p' c')
    (unnumbered : ¬Orbit.IsNumbered c'.orbit) : p' = p := by
  have numbered : ∀ {orbit : Int}, isContactOrbit p orbit = .ok false → orbit ≠ Orbit.far →
      Orbit.IsNumbered orbit := by
    intro orbit outside near
    refine ⟨?_, near⟩
    rintro rfl
    cases outside
  cases h with
  | beyond outside near => exact absurd (numbered outside near) unnumbered
  | placed outside near slot => exact absurd (numbered (slot ▸ outside) (slot ▸ near)) unnumbered
  | _ => rfl

/-- A companion on a numbered orbit that its parent has a slot for took an undecided one. -/
lemma Attachment.seat_undecided (h : Attachment p c companion orbit p' c')
    (numbered : Orbit.IsNumbered c'.orbit) (inRange : p.inRange c'.orbit = true) {i : Nat}
    (seat : c'.orbit = i) : p.slots[i]? = some .undecided := by
  cases h with
  | contact => exact absurd rfl numbered.1
  | far => exact absurd rfl numbered.2
  | beyond outside near noSlot => exact absurd (noSlot.symm.trans inRange) Bool.false_ne_true
  | placed outside near slot free => exact Int.ofNat_inj.mp seat ▸ free
  | displaced => exact absurd rfl numbered.2

end Seats

/-! ## What becomes of the slots -/

/-- What an attached companion does to undecided slots of its parent: it takes the one of its orbit
and leaves the others empty. -/
def Claims (companion : StarId) (c : StarSystem) (seated : Int) (i : Nat) (body : Slot) : Prop :=
  if (i : Int) = seated then body = .star companion c.name c.star else body = .empty i

/-- What attaching companion `c` comes to that was meant for an orbit of star `p`.  It ends up where
the orbit leads.  On a numbered orbit, the undecided slots of that orbit and near it change; else
none do. -/
structure Attached (p c : StarSystem) (companion : StarId) (zones : Zones) (orbit seated : Int)
    (p' : StarSystem) : Prop where
  seat : seated = p.seatFor zones orbit
  kept : Orbit.IsNumbered seated → seated = orbit ∧ 1 ≤ orbit
  decided : ∀ (i : Nat) (content : Slot), p.slots[i]? = some content → content ≠ .undecided →
    p'.slots[i]? = some content
  sits : ∀ i : Nat, p'.Seats companion i ↔ p.Seats companion i ∨
    Orbit.IsNumbered seated ∧ p.inRange seated = true ∧ seated = i
  sitsNewly : (∃ i, p'.Seats companion i ∧ ¬p.Seats companion i) ↔
    Orbit.IsNumbered seated ∧ p.inRange seated = true
  numbered : Orbit.IsNumbered seated → p.Fills
    {i : Nat | p.slots[i]? = some .undecided ∧ ((i : Int) = seated ∨ Orbit.IsNear seated i)}
    (Claims companion c seated) p'
  unnumbered : ¬Orbit.IsNumbered seated → p' = p

section Slots

variable {p c p' c' : StarSystem} {companion : StarId} {orbit : Int} {zones : Zones}

/-- The slots that change are the one of the companion and those near it.

**Proof sketch.** Only a companion beyond the slots and one that takes a slot have a number. The
first marks what is near it, and its own orbit is not among the slots at all. The second fills its
own slot and then marks what is near it; those are two fillings in a row, and the slot that it took
is not near itself, so that together they fill what was undecided before. -/
lemma Attachment.fills (h : Attachment p c companion orbit p' c')
    (fitted : p.slots.length = p.maxOrbits.toNat) (numbered : Orbit.IsNumbered c'.orbit) : p.Fills
      {i : Nat | p.slots[i]? = some .undecided ∧ ((i : Int) = c'.orbit ∨ Orbit.IsNear c'.orbit i)}
      (Claims companion c c'.orbit) p' := by
  -- what is near the companion is not its own orbit
  have cleared : ∀ (seat : Int) (i : Nat) (body : Slot), Orbit.IsNear seat i → body = .empty i →
      Claims companion c seat i body := fun seat i body near empty =>
    (if_neg near.ne).mpr empty
  cases h with
  | contact => exact absurd rfl numbered.1
  | far => exact absurd rfl numbered.2
  | displaced => exact absurd rfl numbered.2
  | beyond outside near noSlot =>
    have filled : {i : Nat | Orbit.IsNear orbit i ∧ p.slots[i]? = some .undecided} =
        {i : Nat | p.slots[i]? = some .undecided ∧ ((i : Int) = orbit ∨ Orbit.IsNear orbit i)} := by
      ext i
      refine ⟨fun mem => ⟨mem.2, .inr mem.1⟩, fun mem => ⟨mem.2.resolve_left ?_, mem.1⟩⟩
      rintro rfl
      have inRange := StarSystem.inRange_of_getElem? fitted mem.1
      exact absurd (noSlot.symm.trans inRange) Bool.false_ne_true
    exact filled ▸ (StarSystem.fills_clearNear fitted orbit).mono fun i body mem =>
      cleared orbit i body mem.1
  | @placed i outside near slot free =>
    have taken : p.Fills {i} (Claims companion c i)
        { p with slots := p.slots.set i (.star companion c.name c.star) } :=
      StarSystem.fills_set free nofun ((if_pos rfl).mpr rfl)
    have both := taken.trans ((StarSystem.fills_clearNear (taken.fitted fitted) i).mono
      fun j body mem => cleared i j body mem.1)
    have filled : {i} ∪ {j : Nat | Orbit.IsNear i j ∧
          (p.slots.set i (.star companion c.name c.star))[j]? = some .undecided} =
        {j : Nat | p.slots[j]? = some .undecided ∧ ((j : Int) = i ∨ Orbit.IsNear i j)} := by
      ext j
      constructor
      · rintro (rfl | ⟨near, free'⟩)
        · exact ⟨free, .inl rfl⟩
        · exact ⟨(taken.undecided_iff.mp free').1, .inr near⟩
      · rintro ⟨free', same | near⟩
        · exact .inl (Int.ofNat_inj.mp same)
        · refine .inr ⟨near, taken.undecided_iff.mpr ⟨free', fun same => near.ne ?_⟩⟩
          exact congrArg Nat.cast same
    exact filled ▸ both

/-- A companion stands in the slot of its orbit, if it has a numbered one that is in range, and
where it stood before.

**Proof sketch.** On a numbered orbit, a slot is as it was or was filled. Of the filled ones that of
the orbit itself holds the companion and all others are marked to stay empty; the former is among
them exactly if it is in range, since then it was undecided. On any other orbit no slot changes. -/
lemma Attachment.seats_iff (h : Attachment p c companion orbit p' c')
    (fitted : p.slots.length = p.maxOrbits.toNat) (i : Nat) :
    p'.Seats companion i ↔ p.Seats companion i ∨
      Orbit.IsNumbered c'.orbit ∧ p.inRange c'.orbit = true ∧ c'.orbit = i := by
  by_cases numbered : Orbit.IsNumbered c'.orbit
  · have fills := h.fills fitted numbered
    constructor
    · rintro ⟨name, star, held⟩
      by_cases kept : p'.slots[i]? = p.slots[i]?
      · exact .inl ⟨name, star, kept ▸ held⟩
      · obtain ⟨free, body, held', -, claims⟩ := fills.content i (not_imp_comm.mp (fills.kept i) kept)
        obtain rfl := Option.eq_some_unique held held'
        by_cases seat : (i : Int) = c'.orbit
        · exact .inr ⟨numbered, seat ▸ StarSystem.inRange_of_getElem? fitted free, seat.symm⟩
        · cases (if_neg seat).mp claims
    · rintro (⟨name, star, held⟩ | ⟨-, inRange, seat⟩)
      · exact ⟨name, star, fills.decided held nofun⟩
      · have free := h.seat_undecided numbered inRange seat
        obtain ⟨-, body, held, -, claims⟩ := fills.content i ⟨free, .inl seat.symm⟩
        exact ⟨c.name, c.star, held.trans (congrArg some ((if_pos seat.symm).mp claims))⟩
  · rw [h.parent_eq numbered]
    exact (or_iff_left fun seat => numbered seat.1).symm

/-- An attached companion takes a slot that it did not stand in before exactly if its orbit is
numbered and in range.

**Proof sketch.** The slots that it stands in afterwards are those it stood in before and, if it
took one, the slot of its orbit. That slot was undecided, so it did not stand there before. -/
lemma Attachment.newly_seats_iff (h : Attachment p c companion orbit p' c')
    (fitted : p.slots.length = p.maxOrbits.toNat) :
    (∃ i, p'.Seats companion i ∧ ¬p.Seats companion i) ↔
      Orbit.IsNumbered c'.orbit ∧ p.inRange c'.orbit = true := by
  constructor
  · rintro ⟨i, after, before⟩
    obtain ⟨numbered, inRange, -⟩ := ((h.seats_iff fitted i).mp after).resolve_left before
    exact ⟨numbered, inRange⟩
  · rintro ⟨numbered, inRange⟩
    have nonneg : 0 ≤ c'.orbit := by
      simp only [StarSystem.inRange, Bool.and_eq_true, decide_eq_true_eq] at inRange
      exact inRange.1
    obtain ⟨i, seat⟩ := Int.eq_ofNat_of_zero_le nonneg
    refine ⟨i, (h.seats_iff fitted i).mpr (.inr ⟨numbered, inRange, seat⟩), ?_⟩
    rintro ⟨name, star, held⟩
    cases Option.eq_some_unique held (h.seat_undecided numbered inRange seat)

/-- An attachment comes to what it should. -/
lemma Attachment.attached (h : Attachment p c companion orbit p' c')
    (fitted : p.slots.length = p.maxOrbits.toNat) (classified : p.star.Classified)
    (zoned : p.star.zones = .ok zones) : Attached p c companion zones orbit c'.orbit p' where
  seat := h.orbit_eq fitted zoned
  kept := h.orbit_kept classified
  decided i content held decided := by
    by_cases numbered : Orbit.IsNumbered c'.orbit
    · exact (h.fills fitted numbered).decided held decided
    · rwa [h.parent_eq numbered]
  sits := h.seats_iff fitted
  sitsNewly := h.newly_seats_iff fitted
  numbered := h.fills fitted
  unnumbered := h.parent_eq

end Slots

/-! ## Attaching to any star -/

section Attaching

variable {σ : Type} [RandomSource σ] {run : Run σ Atlas} {parent companion : StarId}
  {p c : StarSystem}

/-- **A companion may be attached to any star.**  Whatever the slots of the parent hold and whatever
the orbit is, attaching a companion other than the parent itself succeeds.  The companion ends up on
the contact orbit if the orbit is that or lies inside of the parent; else far out if the orbit is
that or holds something already; else on the orbit itself, which is at least one.  It takes a slot
exactly if its orbit is then numbered and in range.  On a numbered orbit the undecided ones near it
are left empty, and no other slot changes; on any other orbit no slot does.  No other star changes.

**Proof sketch.** The attachment tells which of five cases the orbit leads to.  Placing the
companion and marking the orbits near it fill undecided slots, and the slot that the companion takes
is not near itself. -/
theorem attach_attaches (ne : parent ≠ companion) (foundP : run.scene.star? parent = some p)
    (foundC : run.scene.star? companion = some c)
    (fitted : p.slots.length = p.maxOrbits.toNat) (classified : p.star.Classified) (orbit : Int) :
    ∃ zones seated after p', p.star.zones = .ok zones ∧
      attach parent companion orbit run = .ok seated after ∧
      after.scene = (run.scene.setStar parent p').setStar companion { c with orbit := seated } ∧
      Attached p c companion zones orbit seated p' := by
  obtain ⟨zones, zoned⟩ := classified.exists_zones
  -- no roll is made, so that attaching succeeds also where the source runs dry
  obtain ⟨seated, after, ran, -⟩ :=
    Call.succeeds_attach foundP classified (Atlas.lt_length foundC) orbit
  obtain ⟨p', c', attachment, rfl, scene⟩ :=
    (ends_attach ne foundP foundC classified fitted orbit).of_ok ran
  refine ⟨zones, _, after, p', zoned, ran, ?_, attachment.attached fitted classified zoned⟩
  rw [scene, attachment.companion_eq]

end Attaching

/-- A companion attached to the orbit beyond a gas giant takes its slot there.  Of the orbits near
it, those farther out are left empty, and the gas giant stays. -/
theorem attach_attaches_asterope :
    let giant : Slot := .giant { name := "Regina IV", size := .large, orbit := 3 }
    let p : StarSystem := {
      name := "Regina", star := ⟨.G, 2, .V⟩, maxOrbits := 8
      slots := [.undecided, .undecided, .undecided, giant, .undecided, .undecided, .undecided,
        .undecided] }
    let p' : StarSystem := { p with
      slots := [.undecided, .undecided, .undecided, giant, .star 1 "Asterope" ⟨.M, 3, .V⟩, .empty 5,
        .empty 6, .undecided] }
    let c : StarSystem := .bare "Asterope" ⟨.M, 3, .V⟩ Orbit.contact 2
    let run : Run Congruential Atlas := ⟨⟨⟨1⟩, []⟩, [], ⟨[p, c], .regina⟩⟩
    run.scene.star? 0 = some p ∧ run.scene.star? 1 = some c ∧
      p.slots.length = p.maxOrbits.toNat ∧ p.star.Classified ∧
      ∃ zones after, p.star.zones = .ok zones ∧ attach 0 1 4 run = .ok 4 after ∧
        after.scene = (run.scene.setStar 0 p').setStar 1 { c with orbit := 4 } ∧
        Attached p c 1 zones 4 4 p' := by
  intro giant p p' c run
  have classified : p.star.Classified := ⟨by decide, by decide⟩
  obtain ⟨zones, seated, after, q, zoned, ran, scene, attached⟩ :=
    @attach_attaches Congruential _ run 0 1 p c (by decide) rfl rfl rfl classified 4
  obtain rfl : seated = 4 := by
    rw [attached.seat]
    cases zoned
    rfl
  have parent : after.scene.star? 0 = some q := by
    rw [scene]
    rfl
  have computed : ((attach 0 1 4).leaves run).scene.star? 0 = some p' := by rfl
  rw [Gen.leaves, ran] at computed
  obtain rfl := Option.eq_some_unique parent computed
  exact ⟨rfl, rfl, rfl, classified, zones, after, zoned, ran, scene, attached⟩

end Constellation

end Starchart
