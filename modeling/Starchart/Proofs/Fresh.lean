import Starchart.Proofs.Companions

/-!
# Charts before they are populated

The stars of a chart that has just been built carry consecutive numbers, and their slots hold nothing
but orbits that stay empty and companions of their own.  Only a far star may have a companion that
is not the primary's.

## Main definitions

* `Starchart.Slot.Barren` — what may stand in a slot before a chart is populated.
* `Starchart.Atlas.Fresh` — a star of a chart before it is populated.

## Main results

* `Starchart.Constellation.Joins.fresh` — a companion leaves a fresh chart fresh.
* `Starchart.Constellation.Built.fresh` — a built chart is fresh.
* `Starchart.Constellation.Built.spans` — its stars have consecutive numbers.
-/

set_option autoImplicit false

namespace Starchart

/-- What may stand in slot `i` of a star before the chart is populated: a companion stands there
only if it is one of the star's own, orbits there and lies outside of the star. -/
inductive Slot.Barren (a : Atlas) (s : StarSystem) (i : Nat) : Slot → Prop
  | undecided : Barren a s i .undecided
  | empty : Barren a s i (.empty i)
  | star {id : StarId} {name : String} {star : Star} {companion : StarSystem}
      (own : id ∈ s.companions) (found : a.star? id = some companion)
      (orbit : companion.orbit = i) (outside : 0 < i)
      (clear : ∀ {zones : Zones}, s.star.zones = .ok zones → zones.inside < i) :
      Barren a s i (.star id name star)

/-- A slot keeps what stands there if the star keeps its companions and the chart the orbits of its
stars. -/
lemma Slot.Barren.mono {a b : Atlas} {s t : StarSystem} {i : Nat} {content : Slot}
    (h : content.Barren a s i) (same : t.star = s.star)
    (own : ∀ id ∈ s.companions, id ∈ t.companions)
    (kept : ∀ {id : StarId} {c : StarSystem}, a.star? id = some c →
      ∃ d, b.star? id = some d ∧ d.orbit = c.orbit) : content.Barren b t i := by
  cases h with
  | undecided => exact .undecided
  | empty => exact .empty
  | star own' found orbit outside clear =>
    obtain ⟨d, found', orbit'⟩ := kept found
    exact .star (own _ own') found' (orbit'.trans orbit) outside (same ▸ clear)

/-- Star number `id` of a chart before it is populated. The primary star has the number zero, and
only the primary star and far ones have companions or cleared orbits. Every star of a built chart is
fresh, which is where populating starts. -/
structure Atlas.Fresh (a : Atlas) (id : StarId) (s : StarSystem) : Prop where
  sound : s.Sound
  phase : s.phase = none
  hasMain : s.hasMain = false
  slots : ∀ {i : Nat} {content : Slot}, s.slots[i]? = some content → content.Barren a s i
  lodged : ∀ {companion : StarId}, companion ∈ s.companions → a.Lodges s companion
  primary : id = 0 → s.orbit = Orbit.primary
  companion : id ≠ 0 → Orbit.contact ≤ s.orbit
  near : id ≠ 0 → s.orbit ≠ Orbit.far → s.companions = [] ∧
    ∀ {i : Nat} {content : Slot}, s.slots[i]? = some content → content = .undecided

/-- The main world stands in no slot of a chart before it is populated. -/
lemma Atlas.Fresh.slots_ne_main {a : Atlas} {id : StarId} {s : StarSystem} (h : a.Fresh id s)
    (i : Nat) : s.slots[i]? ≠ some .main :=
  fun held => nomatch h.slots held

namespace Constellation

variable {a b : Atlas} {parent : StarId} {p c p' c' : StarSystem} {orbit : Int} {tertiary : Bool}
  {depth : Depth}

/-! ## Links -/

/-- Whether a star has no companion yet of the kind that is to be linked. -/
def Unlinked (s : StarSystem) (tertiary : Bool) : Prop :=
  if tertiary then s.tertiary = none else s.secondary = none

/-- A linked companion is one of the star's own. -/
lemma mem_companions_linked (s : StarSystem) (tertiary : Bool) (id : StarId) :
    id ∈ (linked s tertiary id).companions := by
  cases tertiary <;> simp [linked, StarSystem.companions]

/-- A star that is linked to one more companion keeps the others. -/
lemma companions_linked {s : StarSystem} (unlinked : Unlinked s tertiary) (id : StarId) :
    ∀ other ∈ s.companions, other ∈ (linked s tertiary id).companions := by
  intro other own
  cases tertiary with
  | false =>
    have unlinked : s.secondary = none := unlinked
    simp only [StarSystem.companions, unlinked, Option.toList_none, List.nil_append] at own
    exact List.mem_append_right _ own
  | true =>
    have unlinked : s.tertiary = none := unlinked
    simp only [StarSystem.companions, unlinked, Option.toList_none, List.append_nil] at own
    exact List.mem_append_left _ own

/-- A companion of a star that was linked to one is that one or an older one. -/
lemma of_mem_companions_linked {s : StarSystem} {id other : StarId}
    (own : other ∈ (linked s tertiary id).companions) : other ∈ s.companions ∨ other = id := by
  cases tertiary with
  | false =>
    rcases List.mem_append.mp own with new | old
    · exact .inr (List.mem_singleton.mp new)
    · exact .inl (List.mem_append_right _ old)
  | true =>
    rcases List.mem_append.mp own with old | new
    · exact .inl (List.mem_append_left _ old)
    · exact .inr (List.mem_singleton.mp new)

/-- Linking a companion changes no orbit, slot, phase or assignment. -/
lemma linked_eq (s : StarSystem) (tertiary : Bool) (id : StarId) :
    (linked s tertiary id).orbit = s.orbit ∧ (linked s tertiary id).slots = s.slots ∧
      (linked s tertiary id).phase = s.phase ∧ (linked s tertiary id).hasMain = s.hasMain := by
  cases tertiary <;> exact ⟨rfl, rfl, rfl, rfl⟩

/-- Nor does it change the name and class of a star. -/
lemma linked_class (s : StarSystem) (tertiary : Bool) (id : StarId) :
    (linked s tertiary id).name = s.name ∧ (linked s tertiary id).star = s.star := by
  cases tertiary <;> exact ⟨rfl, rfl⟩

/-! ## Attachments -/

/-- An attachment changes nothing of the parent but slots. -/
lemma Attachment.frame {id : StarId} (h : Attachment p c id orbit p' c') :
    p' = { p with slots := p'.slots } := by
  cases h with
  | contact => rfl
  | far => rfl
  | displaced => rfl
  | beyond => exact (p.clears_clearNear _).frame
  | placed => exact (StarSystem.clears_clearNear _ _).frame

/-- A companion ends on the contact orbit, far out, or on a numbered orbit. -/
lemma Attachment.contact_le {id : StarId} (h : Attachment p c id orbit p' c')
    (separated : orbit = Orbit.far ∨ orbit = Orbit.contact ∨ 1 ≤ orbit ∧ orbit ≤ 14) :
    Orbit.contact ≤ c'.orbit := by
  unfold Orbit.far Orbit.contact at *
  cases h with
  | contact => exact Int.le_refl _
  | far => exact Int.natCast_nonneg 1000
  | displaced => exact Int.natCast_nonneg 1000
  | beyond =>
    change 0 ≤ orbit
    omega
  | placed => exact Int.natCast_nonneg _

/-- An orbit that is neither contact nor far lies outside of the star. -/
lemma inside_lt_of_isContactOrbit {zones : Zones} (outside : isContactOrbit p orbit = .ok false)
    (near : orbit ≠ Orbit.far) (zoned : p.star.zones = .ok zones) : zones.inside < orbit := by
  unfold isContactOrbit at outside
  rw [if_neg near, zoned] at outside
  split at outside
  · cases outside
  · injection outside with outside
    exact Int.not_le.mp (of_decide_eq_false outside)

/-- The slots of the parent of a star that joined a chart: they are as before, cleared, or hold the
new star, which lies outside of the parent.

**Proof sketch.** Only a companion beyond the slots and one that takes a slot change any. Both mark
orbits near them; the second fills its own slot before, which lies outside of the star because its
orbit is not contact. -/
lemma Attachment.slot {id : StarId} (h : Attachment p c id orbit p' c') {i : Nat} {content : Slot}
    (held : p'.slots[i]? = some content) :
    p.slots[i]? = some content ∨ content = .empty i ∨
      content = .star id c.name c.star ∧ c'.orbit = i ∧ 0 < i ∧
        ∀ {zones : Zones}, p.star.zones = .ok zones → zones.inside < i := by
  cases h with
  | contact => exact .inl held
  | far => exact .inl held
  | displaced => exact .inl held
  | beyond =>
    rcases (p.clears_clearNear _).slot held with kept | ⟨-, cleared⟩
    · exact .inl kept
    · exact .inr (.inl cleared)
  | @placed j outside near slot free =>
    rcases (StarSystem.clears_clearNear _ _).slot held with kept | ⟨-, cleared⟩
    · by_cases same : j = i
      · subst same
        have short := (List.getElem?_eq_some_iff.mp free).1
        rw [List.getElem?_set_self short] at kept
        injection kept with kept
        refine .inr (.inr ⟨kept.symm, rfl, ?_, fun zoned => ?_⟩)
        · -- orbit zero is the contact orbit
          by_contra zero
          obtain rfl : j = 0 := by omega
          rw [slot] at outside
          cases outside
        · rw [← slot]
          exact inside_lt_of_isContactOrbit outside near zoned
      · exact .inl ((List.getElem?_set_ne same).symm.trans kept)
    · exact .inr (.inl cleared)

/-- A companion that was attached on an orbit with a slot stands in that slot.

**Proof sketch.** The orbit is a number with a slot, so that the companion is neither contact nor
far nor beyond the slots. It took the slot then, and no decided slot is cleared afterwards. -/
lemma Attachment.slot_self {id : StarId} (h : Attachment p c id orbit p' c')
    (capacity : p.maxOrbits = p.slots.length) (few : p.slots.length ≤ 20) {i : Nat}
    (same : c'.orbit = i) (outside : 0 < i) (lt : i < p.slots.length) :
    p'.slots[i]? = some (.star id c.name c.star) := by
  cases h with
  | contact =>
    change (0 : Int) = i at same
    omega
  | far =>
    change (1000 : Int) = i at same
    omega
  | displaced =>
    change (1000 : Int) = i at same
    omega
  | beyond outside near noSlot =>
    change orbit = i at same
    have inRange : p.inRange orbit = true := by
      simp only [StarSystem.inRange, Bool.and_eq_true, decide_eq_true_eq]
      omega
    rw [noSlot] at inRange
    cases inRange
  | @placed j outside near slot free =>
    obtain rfl : j = i := Int.ofNat.inj same
    refine (StarSystem.clears_clearNear _ _).kept (List.getElem?_set_self lt) ?_
    intro undecided
    cases undecided

/-- Companions stay in their slots when another one is attached. -/
lemma Attachment.slot_of_star {id other : StarId} {name : String} {star : Star} {i : Nat}
    (h : Attachment p c id orbit p' c') (held : p.slots[i]? = some (.star other name star)) :
    p'.slots[i]? = some (.star other name star) := by
  cases h with
  | contact => exact held
  | far => exact held
  | displaced => exact held
  | beyond => exact (p.clears_clearNear _).kept held nofun
  | @placed j outside near slot free =>
    have other : j ≠ i := by
      rintro rfl
      cases Option.eq_some_unique free held
    exact (StarSystem.clears_clearNear _ _).kept
      ((List.getElem?_set_ne other).trans held) nofun

/-! ## One more star -/

/-- What a companion is like when it is rolled. -/
lemma IsCompanion.fields (h : IsCompanion depth orbit c) :
    c.phase = none ∧ c.hasMain = false ∧ c.secondary = none ∧ c.tertiary = none ∧
      ∀ {i : Nat} {content : Slot}, c.slots[i]? = some content → content = .undecided := by
  cases h
  exact ⟨rfl, rfl, rfl, rfl, StarSystem.slots_bare⟩

/-- A star that joined a chart is fresh.

**Proof sketch.** A companion as it was rolled is bare. Attaching it changes nothing of it but its
orbit, which is the contact orbit at least. -/
lemma fresh_last (rolled : IsCompanion depth orbit c)
    (separated : orbit = Orbit.far ∨ orbit = Orbit.contact ∨ 1 ≤ orbit ∧ orbit ≤ 14)
    {id : StarId} (attached : Attachment p c id orbit p' c') (companion : id ≠ 0) :
    b.Fresh id c' := by
  have contact := attached.contact_le separated
  have sound := rolled.sound
  obtain ⟨phase, hasMain, secondary, tertiary, undecided⟩ := rolled.fields
  have heq := attached.companion_eq
  generalize c'.orbit = seat at heq contact
  subst heq
  exact {
    sound := ⟨⟨sound.classified, sound.capacity, sound.countable⟩, sound.few⟩
    phase := phase
    hasMain := hasMain
    slots := fun held => by
      rw [undecided held]
      exact .undecided
    lodged := fun own => by
      simp [StarSystem.companions, secondary, tertiary] at own
    primary := fun zero => absurd zero companion
    companion := fun _ => contact
    near := fun _ _ => ⟨by simp [StarSystem.companions, secondary, tertiary], undecided⟩ }

/-- No star moves or changes its name and class when another one joins the chart. -/
lemma exists_joined (attached : Attachment p c a.stars.length orbit p' c')
    (found : a.star? parent = some p) {other : StarId}
    {t : StarSystem} (known : a.star? other = some t) :
    ∃ u, (joined a parent (linked p' tertiary a.stars.length) c').star? other = some u ∧
      u.orbit = t.orbit ∧ u.name = t.name ∧ u.star = t.star := by
  by_cases same : other = parent
  · subst same
    obtain rfl := Option.eq_some_unique found known
    have alike := attached.alike
    obtain ⟨orbit_eq, -⟩ := linked_eq p' tertiary a.stars.length
    obtain ⟨name_eq, star_eq⟩ := linked_class p' tertiary a.stars.length
    exact ⟨_, star?_joined_parent (Atlas.lt_length found) _ _, orbit_eq.trans alike.orbit,
      name_eq.trans alike.name, star_eq.trans alike.star⟩
  · exact ⟨t, (star?_joined_of_ne (Atlas.lt_length known) same _ _).trans known, rfl, rfl, rfl⟩

/-- No star moves when another one joins the chart. -/
lemma exists_orbit_joined (attached : Attachment p c a.stars.length orbit p' c')
    (found : a.star? parent = some p) {other : StarId}
    {t : StarSystem} (known : a.star? other = some t) :
    ∃ u, (joined a parent (linked p' tertiary a.stars.length) c').star? other = some u ∧
      u.orbit = t.orbit := by
  obtain ⟨u, found', orbit_eq, -⟩ := exists_joined attached found known
  exact ⟨u, found', orbit_eq⟩

/-- A companion stays lodged when another star joins the chart. -/
lemma lodges_joined (attached : Attachment p c a.stars.length orbit p' c')
    (found : a.star? parent = some p) {s t : StarSystem}
    (length : t.slots.length = s.slots.length)
    (kept : ∀ {i : Nat} {companion : StarId} {name : String} {star : Star},
      s.slots[i]? = some (.star companion name star) →
        t.slots[i]? = some (.star companion name star))
    (noMain : ∀ i : Nat, s.slots[i]? ≠ some .main) {companion : StarId}
    (lodged : a.Lodges s companion) :
    (joined a parent (linked p' tertiary a.stars.length) c').Lodges t companion := by
  obtain ⟨d, foundD, stands⟩ := lodged
  obtain ⟨e, foundE, orbit_eq, name_eq, star_eq⟩ := exists_joined attached found foundD
  refine ⟨e, foundE, fun i same outside lt => ?_⟩
  rw [name_eq, star_eq]
  rcases stands i (orbit_eq.symm.trans same) outside (length ▸ lt) with held | held
  · exact .inl (kept held)
  · exact absurd held (noMain i)

/-- The parent of a star that joined a chart stays fresh, if it had no companion of that kind.

**Proof sketch.** A slot of the parent holds what it held before, or a mark, or the companion that
joined. What it held before is told of an older companion, whose orbit is the same on the larger
chart. The companion that joined took its slot outside of the star, and is linked now. Links to the
older companion and to the one that joined lodge, each by its own attachment; phase, main world and
orbit of the parent are not touched. -/
lemma fresh_parent (attached : Attachment p c a.stars.length orbit p' c')
    (found : a.star? parent = some p) (ofParent : a.Fresh parent p)
    (outer : parent = 0 ∨ p.orbit = Orbit.far) (unlinked : Unlinked p tertiary) :
    (joined a parent (linked p' tertiary a.stars.length) c').Fresh parent
      (linked p' tertiary a.stars.length) := by
  have capacity := ofParent.sound.capacity
  have frame := attached.frame
  have alike := attached.alike
  obtain ⟨orbit_eq, slots_eq, phase_eq, hasMain_eq⟩ := linked_eq p' tertiary a.stars.length
  have same : (linked p' tertiary a.stars.length).star = p.star :=
    (linked_class p' tertiary a.stars.length).2.trans alike.star
  have unlinked' : Unlinked p' tertiary := by
    unfold Unlinked at unlinked ⊢
    rwa [alike.secondary, alike.tertiary]
  have own := companions_linked unlinked' a.stars.length
  rw [alike.companions] at own
  exact {
    sound := by
      have sound := alike.sound ofParent.sound
      exact ⟨regular_linked sound.toRegular _ _, slots_eq ▸ sound.few⟩
    phase := by rw [phase_eq, frame, ofParent.phase]
    hasMain := by rw [hasMain_eq, frame, ofParent.hasMain]
    slots := fun held => by
      rw [slots_eq] at held
      rcases attached.slot held with before | rfl | ⟨rfl, orbit, outside, clear⟩
      · exact (ofParent.slots before).mono same own fun known =>
          exists_orbit_joined attached found known
      · exact .empty
      · exact .star (mem_companions_linked _ _ _) (star?_joined_last _ _ _ _) orbit outside
          (same.symm ▸ clear)
    lodged := fun {companion} mine => by
      rcases of_mem_companions_linked mine with older | rfl
      · rw [alike.companions] at older
        refine lodges_joined attached found (slots_eq ▸ alike.length) (fun held => ?_)
          ofParent.slots_ne_main (ofParent.lodged older)
        rw [slots_eq]
        exact attached.slot_of_star held
      · refine ⟨c', star?_joined_last _ _ _ _, fun i sameOrbit outside lt => .inl ?_⟩
        rw [slots_eq] at lt ⊢
        rw [attached.companion_eq]
        exact attached.slot_self capacity ofParent.sound.few sameOrbit outside (alike.length ▸ lt)
    primary := fun zero => by rw [orbit_eq, alike.orbit, ofParent.primary zero]
    companion := fun other => by
      rw [orbit_eq, alike.orbit]
      exact ofParent.companion other
    near := fun other close => by
      rw [orbit_eq, alike.orbit] at close
      exact absurd (outer.resolve_left other) close }

/-- A companion leaves a fresh chart fresh, if its parent is the primary star or a far one and had
no companion of that kind.

**Proof sketch.** The new star has undecided slots only.  Its parent keeps its other companions, and
a slot that changed was cleared or holds the new star, on the orbit of that slot.  All other stars
stay as they are, and no star moves. -/
theorem Joins.fresh (h : Joins parent tertiary depth a b) (found : a.star? parent = some p)
    (outer : parent = 0 ∨ p.orbit = Orbit.far) (unlinked : Unlinked p tertiary)
    (fresh : ∀ {id : StarId} {s : StarSystem}, a.star? id = some s → a.Fresh id s)
    {id : StarId} {s : StarSystem} (after : b.star? id = some s) : b.Fresh id s := by
  cases h with
  | @intro p₀ p' c c' orbit found' separated rolled attached =>
    obtain rfl := Option.eq_some_unique found found'
    have lt := Atlas.lt_length found
    rcases star?_joined_cases lt after with ⟨rfl, rfl⟩ | known | ⟨rfl, rfl⟩
    · exact fresh_parent attached found (fresh found) outer unlinked
    · have before := fresh known
      exact {
        sound := before.sound
        phase := before.phase
        hasMain := before.hasMain
        slots := fun held => (before.slots held).mono rfl (fun _ own => own) fun known =>
          exists_orbit_joined attached found known
        lodged := fun own => lodges_joined attached found rfl (fun held => held)
          before.slots_ne_main (before.lodged own)
        primary := before.primary
        companion := before.companion
        near := before.near }
    · exact fresh_last rolled separated attached (Nat.ne_of_gt (Nat.zero_lt_of_lt lt))

/-- A star that joined a chart has no companions. -/
lemma Joins.exists_last (h : Joins parent tertiary depth a b) :
    ∃ c, b.star? a.stars.length = some c ∧ c.secondary = none ∧ c.tertiary = none := by
  cases h with
  | @intro p p' c c' orbit found separated rolled attached =>
    obtain ⟨-, -, secondary, tertiary, -⟩ := rolled.fields
    refine ⟨c', star?_joined_last _ _ _ _, ?_, ?_⟩
    · rw [attached.companion_eq]
      exact secondary
    · rw [attached.companion_eq]
      exact tertiary

/-- A chart that a star joined has one star more. -/
lemma Joins.length_eq (h : Joins parent tertiary depth a b) :
    b.stars.length = a.stars.length + 1 := by
  cases h
  exact length_joined _ _ _ _

/-- No star joins the main world. -/
lemma Joins.main_eq (h : Joins parent tertiary depth a b) : b.main = a.main := by
  cases h
  rfl

/-- A star without companions spans its own number alone. -/
lemma spans_single {id : StarId} {s : StarSystem} (found : a.star? id = some s)
    (secondary : s.secondary = none) (tertiary : s.tertiary = none) :
    a.Spans (some id) id (id + 1) := by
  have second : a.Spans s.secondary (id + 1) (id + 1) := by
    rw [secondary]
    exact .absent
  refine .node found second ?_
  rw [tertiary]
  exact .absent

/-! ## Companions of the primary star -/

namespace Outer

/-- The stars that joined a chart around its primary star span the numbers after those of all older
ones.

**Proof sketch.** One companion alone spans its own number. A far one is followed by its own
companion, which has the next number, as it joined after it. -/
lemma spans (h : Outer parent tertiary a b) :
    b.Spans (some a.stars.length) a.stars.length b.stars.length := by
  cases h with
  | single joins =>
    obtain ⟨c, found, secondary, tertiary⟩ := joins.exists_last
    rw [joins.length_eq]
    exact spans_single found secondary tertiary
  | @nested mid _ s joins found far again =>
    obtain ⟨c, foundC, -, tertiary⟩ := joins.exists_last
    obtain ⟨q, alike, foundQ⟩ := again.exists_parent foundC
    obtain ⟨d, foundD, secondaryD, tertiaryD⟩ := again.exists_last
    have length := joins.length_eq
    rw [again.length_eq]
    rw [length] at foundD foundQ ⊢
    -- the far companion is followed by the one of its own
    refine .node foundQ (spans_single foundD secondaryD tertiaryD) ?_
    rw [show (linked q false _).tertiary = none from alike.tertiary.trans tertiary]
    exact .absent

/-- Older stars, apart from the primary, stay as they are. -/
lemma star?_of_ne (h : Outer parent tertiary a b) {id : StarId} (lt : id < a.stars.length)
    (ne : id ≠ parent) : b.star? id = a.star? id := by
  cases h with
  | single joins => exact joins.star?_of_ne lt ne
  | nested joins found far again =>
    have longer : id < _ := Nat.lt_of_lt_of_eq (Nat.lt_succ_of_lt lt) joins.length_eq.symm
    rw [again.star?_of_ne longer (Nat.ne_of_lt lt), joins.star?_of_ne lt ne]

/-- A companion of the primary star, and perhaps one of its own, leave a fresh chart fresh. -/
lemma fresh (h : Outer 0 tertiary a b) (found : a.star? 0 = some p) (unlinked : Unlinked p tertiary)
    (fresh : ∀ {id : StarId} {s : StarSystem}, a.star? id = some s → a.Fresh id s)
    {id : StarId} {s : StarSystem} (after : b.star? id = some s) : b.Fresh id s := by
  cases h with
  | single joins => exact joins.fresh found (.inl rfl) unlinked fresh after
  | @nested mid _ c joins foundC far again =>
    obtain ⟨c', foundC', secondary, -⟩ := joins.exists_last
    obtain rfl := Option.eq_some_unique foundC foundC'
    exact again.fresh foundC (.inr far) secondary
      (fun known => joins.fresh found (.inl rfl) unlinked fresh known) after

/-- No companion changes the main world. -/
lemma main_eq (h : Outer parent tertiary a b) : b.main = a.main := by
  cases h with
  | single joins => exact joins.main_eq
  | nested joins found far again => rw [again.main_eq, joins.main_eq]

end Outer

/-! ## Built charts -/

/-- What a primary star is like when it is rolled. -/
lemma IsPrimary.fields (h : IsPrimary p) :
    p.orbit = Orbit.primary ∧ p.phase = none ∧ p.hasMain = false ∧ p.secondary = none ∧
      p.tertiary = none ∧ 0 < p.slots.length ∧
      ∀ {i : Nat} {content : Slot}, p.slots[i]? = some content → content = .undecided := by
  cases h with
  | intro low high pos le =>
    refine ⟨rfl, rfl, rfl, rfl, rfl, ?_, StarSystem.slots_bare⟩
    rw [StarSystem.length_bare]
    omega

/-- A chart with a primary star alone is fresh. -/
lemma IsPrimary.fresh (h : IsPrimary p) (main : World) {id : StarId} {s : StarSystem}
    (found : (⟨[p], main⟩ : Atlas).star? id = some s) : Atlas.Fresh ⟨[p], main⟩ id s := by
  obtain rfl : id = 0 := by
    have := Atlas.lt_length found
    exact Nat.lt_one_iff.mp this
  obtain rfl : p = s := by simpa [Atlas.star?] using found
  obtain ⟨orbit, phase, hasMain, secondary, tertiary, -, undecided⟩ := h.fields
  exact {
    sound := h.sound
    phase := phase
    hasMain := hasMain
    slots := fun held => by
      rw [undecided held]
      exact .undecided
    lodged := fun own => by
      simp [StarSystem.companions, secondary, tertiary] at own
    primary := fun _ => orbit
    companion := fun other => absurd rfl other
    near := fun other => absurd rfl other }

namespace Built

variable {main : World}

/-- A built chart is fresh.

**Proof sketch.** A primary star alone is fresh and has no links, and each companion takes another
link. -/
theorem fresh (h : Built main a) {id : StarId} {s : StarSystem} (found : a.star? id = some s) :
    a.Fresh id s := by
  cases h with
  | single primary => exact primary.fresh main found
  | @double p _ primary secondary =>
    obtain ⟨-, -, -, second, third, -, -⟩ := primary.fields
    have start : (⟨[p], main⟩ : Atlas).star? 0 = some p := rfl
    exact secondary.fresh start second (fun known => primary.fresh main known) found
  | @triple p mid _ primary secondary tertiary =>
    obtain ⟨-, -, -, second, third, -, -⟩ := primary.fields
    have start : (⟨[p], main⟩ : Atlas).star? 0 = some p := rfl
    obtain ⟨q, alike, foundQ⟩ := secondary.exists_primary start
    have unlinked : Unlinked (linked q false 1) true := alike.tertiary.trans third
    exact tertiary.fresh foundQ unlinked
      (fun known => secondary.fresh start second (fun known => primary.fresh main known) known)
      found

/-- The stars of a built chart have consecutive numbers, each star before its companions.

**Proof sketch.** By cases on how the chart was built. The primary star has number zero, what joined
as its secondary companion follows without a gap, and what joined as its tertiary one follows that;
the stars that joined first are not touched later. -/
theorem spans (h : Built main a) : a.Spans (some 0) 0 a.stars.length := by
  cases h with
  | single primary =>
    obtain ⟨-, -, -, second, third, -, -⟩ := primary.fields
    exact spans_single rfl second third
  | @double p _ primary secondary =>
    obtain ⟨-, -, -, second, third, -, -⟩ := primary.fields
    have start : (⟨[p], main⟩ : Atlas).star? 0 = some p := rfl
    obtain ⟨q, alike, found⟩ := secondary.exists_primary start
    refine .node found secondary.spans ?_
    rw [show (linked q false _).tertiary = none from alike.tertiary.trans third]
    exact .absent
  | @triple p mid _ primary secondary tertiary =>
    obtain ⟨-, -, -, second, third, -, -⟩ := primary.fields
    have start : (⟨[p], main⟩ : Atlas).star? 0 = some p := rfl
    obtain ⟨q, alike, foundQ⟩ := secondary.exists_primary start
    obtain ⟨r, alike', foundR⟩ := tertiary.exists_primary foundQ
    -- the third star leaves those below the second one alone
    have inner : a.Spans (some 1) 1 mid.stars.length := by
      refine secondary.spans.congr fun {id s} above below known => ?_
      have : id ≠ 0 := Nat.ne_of_gt above
      exact ⟨s, (tertiary.star?_of_ne below this).trans known, rfl, rfl⟩
    have link : (linked r true mid.stars.length).secondary = some 1 := alike'.secondary
    refine .node foundR ?_ tertiary.spans
    rw [link]
    exact inner

/-- The primary star of a built chart has room for one orbit at least.

**Proof sketch.** The primary star is rolled with room for one orbit at least. Companions are
attached to it and linked, which leaves the number of its slots as it is. -/
lemma exists_root (h : Built main a) : ∃ s, a.star? 0 = some s ∧ 0 < s.slots.length := by
  have slots : ∀ (s : StarSystem) (tertiary : Bool) (id : StarId),
      (linked s tertiary id).slots = s.slots := fun s tertiary id => (linked_eq s tertiary id).2.1
  cases h with
  | @single p primary =>
    obtain ⟨-, -, -, -, -, room, -⟩ := primary.fields
    exact ⟨p, rfl, room⟩
  | @double p _ primary secondary =>
    obtain ⟨-, -, -, -, -, room, -⟩ := primary.fields
    have start : (⟨[p], main⟩ : Atlas).star? 0 = some p := rfl
    obtain ⟨q, alike, found⟩ := secondary.exists_primary start
    exact ⟨_, found, by rwa [slots, alike.length]⟩
  | @triple p mid _ primary secondary tertiary =>
    obtain ⟨-, -, -, -, -, room, -⟩ := primary.fields
    have start : (⟨[p], main⟩ : Atlas).star? 0 = some p := rfl
    obtain ⟨q, alike, foundQ⟩ := secondary.exists_primary start
    obtain ⟨r, alike', foundR⟩ := tertiary.exists_primary foundQ
    exact ⟨_, foundR, by rwa [slots, alike'.length, slots, alike.length]⟩

/-- Building the stars leaves the main world alone. -/
lemma main_eq (h : Built main a) : a.main = main := by
  cases h with
  | single primary => rfl
  | double primary secondary => rw [secondary.main_eq]
  | triple primary secondary tertiary => rw [tertiary.main_eq, secondary.main_eq]

end Built

end Constellation

end Starchart
