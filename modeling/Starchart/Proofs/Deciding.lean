import Starchart.Proofs.Clearings

/-!
# Slots that are decided

A slot is decided by a mark or by a body that takes it.  Bodies of their own are handed over with their
data; the main world and the stars of a chart are shared, and carry their orbit wherever they are
named.  What lies between two charts is which slots were decided in between, and by which bodies.

## Main definitions

* `Starchart.Body` — a body that may take a slot.
* `Starchart.Atlas.Decides` — slots that were decided between two charts.

## Main results

* `Starchart.Atlas.Decides.clearNear` — the orbits near a companion may be marked to stay empty.
* `Starchart.Atlas.decides_stamp` — a shared body may move.
* `Starchart.Atlas.decides_put` — a body may take a slot.
-/

set_option autoImplicit false

namespace Starchart

/-! ## Bodies -/

/-- A body that may take a slot: one of its own, the main world or a star of the chart. The latter
two are kept by the chart, and a slot only refers to them. -/
inductive Body where
  | own (host : Host)
  | main
  | star (id : StarId)

/-- What stands in a slot that takes the body. -/
def Body.slot (a : Atlas) : Body → Except Fault Slot
  | own (.world w) => .ok (.world w)
  | own (.giant g) => .ok (.giant g)
  | main => .ok .main
  | star id => a.starSlot id

/-- The body, if the chart keeps it outside of slots and it is the same wherever it is named. -/
def Body.shared : Body → List Body
  | own _ => []
  | body => [body]

/-- There is a slot that takes a body of the chart. -/
lemma Body.exists_slot {a : Atlas} (body : Body)
    (known : ∀ k, .star k ∈ body.shared → k < a.stars.length) :
    ∃ content, body.slot a = .ok content := by
  cases body with
  | own host => cases host <;> exact ⟨_, rfl⟩
  | main => exact ⟨_, rfl⟩
  | star k =>
    obtain ⟨c, foundC⟩ := Atlas.exists_star_of_lt (known k (List.mem_singleton.mpr rfl))
    refine ⟨.star k c.name c.star, ?_⟩
    rw [Body.slot, Atlas.starSlot, Atlas.star_eq foundC]
    rfl

/-- A slot takes a star by its name and class. -/
lemma Body.exists_of_slot_star {a : Atlas} {k : StarId} {content : Slot}
    (stands : slot a (.star k) = .ok content) :
    ∃ c, a.star? k = some c ∧ content = .star k c.name c.star := by
  simp only [slot, Atlas.starSlot, Atlas.star] at stands
  cases known : a.star? k with
  | none => simp [known, Except.map] at stands
  | some c =>
    simp only [known, Except.map] at stands
    cases stands
    exact ⟨c, rfl, rfl⟩

/-- The shared bodies that a slot refers to. -/
def Slot.shared : Slot → List Body
  | main => [.main]
  | star id _ _ => [.star id]
  | _ => []

/-! ## Decided slots -/

namespace Atlas

/-- From chart `a` to chart `b`, slots of star `id` were decided.  Only undecided ones that are
reached were, and the one that was forced; what they hold now is among the bodies that were taken,
and carries the number of the slot.  No other body moved. -/
structure Decides (id : StarId) (reach : Int → Prop) (taken : List Body) (forced : Option Int)
    (a b : Atlas) : Prop where
  length : b.stars.length = a.stars.length
  star : ∀ {s : StarSystem}, a.star? id = some s → ∃ t, b.star? id = some t ∧
    t.star = s.star ∧ t.maxOrbits = s.maxOrbits ∧ t.slots.length = s.slots.length
  stored : ∀ {content : Slot}, (∀ body ∈ content.shared, body ∉ taken) →
    b.storedOrbit? content = a.storedOrbit? content
  slot : ∀ {i : Nat} {content : Slot}, b.slot? id i = some content →
    a.slot? id i = some content ∨
      (a.slot? id i = some .undecided ∨ forced = some (i : Int)) ∧ reach i ∧
        (∀ body ∈ content.shared, body ∈ taken) ∧ b.storedOrbit? content = some (i : Int)

variable {a b : Atlas} {id : StarId} {s t : StarSystem} {reach : Int → Prop}
  {taken : List Body} {forced : Option Int}

/-- Nothing needs to be decided. -/
lemma decides_refl (a : Atlas) : a.Decides id reach taken forced a where
  length := rfl
  star {s} found := ⟨s, found, rfl, rfl, rfl⟩
  stored _ := rfl
  slot held := .inl held

/-- Every slot of the star is there afterwards. -/
lemma Decides.exists_slot (h : a.Decides id reach taken forced b) {i : Nat} {content : Slot}
    (held : a.slot? id i = some content) : ∃ after, b.slot? id i = some after := by
  obtain ⟨s, found, held⟩ := Option.bind_eq_some_iff.mp held
  obtain ⟨t, found', -, -, length⟩ := h.star found
  have lt : i < t.slots.length := length ▸ (List.getElem?_eq_some_iff.mp held).1
  exact ⟨t.slots[i], (slot?_eq found' i).trans (List.getElem?_eq_getElem lt)⟩

/-- A slot that changed was reached. -/
lemma Decides.reached (h : a.Decides id reach taken forced b) {i : Nat}
    (changed : b.slot? id i ≠ a.slot? id i) : reach i := by
  cases after : b.slot? id i with
  | none =>
    cases before : a.slot? id i with
    | none => exact absurd (after.trans before.symm) changed
    | some content =>
      obtain ⟨content', held⟩ := h.exists_slot before
      rw [after] at held
      cases held
  | some content =>
    rcases h.slot after with same | ⟨-, reached, -⟩
    · exact absurd (after.trans same.symm) changed
    · exact reached

/-- A star that did not move keeps what bodies carry. -/
lemma storedOrbit?_setStar (found : a.star? id = some s) (same : t.orbit = s.orbit)
    (content : Slot) : (a.setStar id t).storedOrbit? content = a.storedOrbit? content := by
  cases content with
  | star other name star =>
    by_cases here : other = id
    · subst here
      simp [storedOrbit?, star?_setStar_self found, found, same]
    · simp [storedOrbit?, star?_setStar_of_ne here]
  | _ => rfl

/-- One more orbit that is reached may be marked to stay empty.

**Proof sketch.** An orbit that is not undecided stays as it is. An undecided one was so from the
start, since what is decided holds a stored orbit; it is reached, and the mark that it gets is told
by its own number. All other slots and all orbits that are stored elsewhere are those of before. -/
lemma Decides.markEmpty (h : a.Decides id reach taken forced b) (found : b.star? id = some t)
    {orbit : Int} (reached : reach orbit) :
    a.Decides id reach taken forced (b.setStar id (t.markEmpty orbit).2) := by
  unfold StarSystem.markEmpty
  split
  · rename_i free
    obtain ⟨i, rfl, held⟩ := StarSystem.held_of_isUndecided free
    have kept := storedOrbit?_setStar (t := t.setSlot i (.empty i)) found rfl
    have before : a.slot? id i = some .undecided := by
      rcases h.slot ((slot?_eq found i).trans held) with same | ⟨-, -, -, stored⟩
      · exact same
      · cases stored
    exact {
      length := by rw [length_setStar, h.length]
      star := fun known => by
        obtain ⟨u, found', star, maxOrbits, length⟩ := h.star known
        obtain rfl := Option.eq_some_unique found found'
        exact ⟨_, star?_setStar_self found _, star, maxOrbits, by simpa using length⟩
      stored := fun apart => (kept _).trans (h.stored apart)
      slot := fun {j content} held' => by
        rw [slot?_eq (star?_setStar_self found _)] at held'
        by_cases same : i = j
        · subst same
          have lt := (List.getElem?_eq_some_iff.mp held).1
          have here : (t.setSlot i (.empty i)).slots[i]? = some (.empty i) :=
            List.getElem?_set_self lt
          obtain rfl := Option.eq_some_unique here held'
          exact .inr ⟨.inl before, reached, by simp [Slot.shared], rfl⟩
        · have there : (t.setSlot i (.empty i)).slots[j]? = t.slots[j]? :=
            List.getElem?_set_ne same
          rw [there, ← slot?_eq found] at held'
          rw [kept]
          exact h.slot held' }
  · rw [setStar_self found]
    exact h

/-- So may several. -/
lemma Decides.markEmpties {orbits : List Int} (h : a.Decides id reach taken forced b)
    (found : b.star? id = some t) (reached : ∀ orbit ∈ orbits, reach orbit) :
    a.Decides id reach taken forced (b.setStar id (t.markEmpties orbits)) := by
  induction orbits generalizing b t with
  | nil =>
    rw [StarSystem.markEmpties, List.foldl_nil, setStar_self found]
    exact h
  | cons orbit rest ih =>
    have first := h.markEmpty found (reached orbit List.mem_cons_self)
    have later := ih first (star?_setStar_self found _)
      fun other mem => reached other (List.mem_cons_of_mem _ mem)
    rwa [setStar_setStar] at later

/-- So may all orbits near a companion. -/
lemma Decides.clearNear (h : a.Decides id reach taken forced b) (found : b.star? id = some t)
    {orbit : Int} (reached : ∀ other, Orbit.IsNear orbit other → reach other) :
    a.Decides id reach taken forced (b.setStar id (t.clearNear orbit)) :=
  h.markEmpties found fun other mem => reached other (StarSystem.mem_clearNear.mp mem)

/-! ## Bodies that move -/

/-- A changed star is found where it was. -/
lemma star?_modifyStar (k : StarId) (f : StarSystem → StarSystem) :
    (a.modifyStar k f).star? id = if k = id then (a.star? id).map f else a.star? id := by
  simp only [star?, modifyStar, List.getElem?_modify]
  split <;> simp

/-- A body that moves keeps the stars with their slots. -/
lemma star?_stamp (found : a.star? id = some s) (orbit : Int) (content : Slot) :
    ∃ t, (a.stamp orbit content).star? id = some t ∧ t.star = s.star ∧ t.maxOrbits = s.maxOrbits ∧
      t.slots = s.slots := by
  cases content with
  | star k name star =>
    simp only [stamp, star?_modifyStar, found]
    split
    · exact ⟨_, rfl, rfl, rfl, rfl⟩
    · exact ⟨s, rfl, rfl, rfl, rfl⟩
  | _ => exact ⟨s, found, rfl, rfl, rfl⟩

/-- No slot changes when a body moves. -/
lemma slot?_stamp (found : a.star? id = some s) (orbit : Int) (content : Slot) (i : Nat) :
    (a.stamp orbit content).slot? id i = a.slot? id i := by
  obtain ⟨t, found', -, -, slots⟩ := star?_stamp found orbit content
  rw [slot?_eq found', slot?_eq found, slots]

/-- There are as many stars when a body moves. -/
@[simp] lemma length_stamp (orbit : Int) (content : Slot) :
    (a.stamp orbit content).stars.length = a.stars.length := by
  cases content <;> simp [stamp, modifyStar]

/-- Only the body that moves carries another orbit. -/
lemma storedOrbit?_stamp {orbit : Int} {content other : Slot}
    (apart : ∀ body ∈ other.shared, body ∉ content.shared) :
    (a.stamp orbit content).storedOrbit? other = a.storedOrbit? other := by
  cases other with
  | star k name star =>
    cases content with
    | star j name' star' =>
      have ne : j ≠ k := by
        rintro rfl
        simp [Slot.shared] at apart
      simp [storedOrbit?, stamp, star?_modifyStar, ne]
    | _ => rfl
  | main =>
    cases content with
    | main => simp [Slot.shared] at apart
    | _ => rfl
  | _ => rfl

/-- A shared body may move without taking a slot. -/
lemma decides_stamp (orbit : Int) (content : Slot) (moved : ∀ body ∈ content.shared, body ∈ taken) :
    a.Decides id reach taken forced (a.stamp orbit content) where
  length := length_stamp orbit content
  star found := by
    obtain ⟨t, found', star, maxOrbits, slots⟩ := star?_stamp found orbit content
    exact ⟨t, found', star, maxOrbits, congrArg List.length slots⟩
  stored apart := storedOrbit?_stamp fun body mem mem' => apart body mem (moved body mem')
  slot {i content'} held := by
    obtain ⟨s, found⟩ : ∃ s, a.star? id = some s := by
      cases found : a.star? id with
      | some s => exact ⟨s, rfl⟩
      | none =>
        have gone : (a.stamp orbit content).star? id = none := by
          rw [star?, List.getElem?_eq_none_iff, length_stamp, ← List.getElem?_eq_none_iff]
          exact found
        rw [slot?, gone] at held
        cases held
    rw [slot?_stamp found] at held
    exact .inl held

/-- The slot that takes a body refers to the body, if that is shared. -/
lemma shared_of_slot {body : Body} {content : Slot} (stands : body.slot a = .ok content) :
    content.shared = body.shared ∧ ∀ orbit, (content.stamp orbit).shared = body.shared := by
  cases body with
  | own host =>
    cases host <;> cases stands <;> exact ⟨rfl, fun _ => rfl⟩
  | main =>
    cases stands
    exact ⟨rfl, fun _ => rfl⟩
  | star k =>
    obtain ⟨c, -, rfl⟩ := Body.exists_of_slot_star stands
    exact ⟨rfl, fun _ => rfl⟩

/-- A body that was taken carries the orbit that it was taken for. -/
lemma storedOrbit?_stamp_self {body : Body} {content : Slot}
    (stands : body.slot a = .ok content) (length : b.stars.length = a.stars.length) (orbit : Int) :
    (b.stamp orbit content).storedOrbit? (content.stamp orbit) = some orbit := by
  cases body with
  | own host =>
    cases host <;> cases stands <;> rfl
  | main =>
    cases stands
    rfl
  | star k =>
    obtain ⟨c, known, rfl⟩ := Body.exists_of_slot_star stands
    obtain ⟨d, known'⟩ := exists_star_of_lt (length ▸ lt_length known)
    simp [Slot.stamp, storedOrbit?, stamp, star?_modifyStar, known']

/-- The chart with a body in a slot. The body is stamped with the number of the orbit: in the slot
if it is one of its own, and on the chart if the slot only refers to it. -/
def put (a : Atlas) (id : StarId) (s : StarSystem) (content : Slot) (orbit : Int) : Atlas :=
  (a.setStar id (s.setSlot orbit (content.stamp orbit))).stamp orbit content

/-- A body may take a slot that is reached, if that is undecided or forced.

**Proof sketch.** Putting a body into a slot sets that slot and stamps the orbit on what the body
shares with the chart. So the slot holds content with the orbit stored as its number, no other slot
changes, and no other shared body gets another orbit. -/
lemma decides_put (found : a.star? id = some s) {i : Nat} {old : Slot}
    (held : s.slots[i]? = some old) {body : Body} {content : Slot}
    (stands : body.slot a = .ok content) (free : old = .undecided ∨ forced = some (i : Int))
    (reached : reach i) : a.Decides id reach body.shared forced (a.put id s content i) := by
  unfold put
  set writing : StarSystem := s.setSlot i (content.stamp i) with hwriting
  have found' := star?_setStar_self found writing
  obtain ⟨shared, shared'⟩ := shared_of_slot stands
  obtain ⟨t, found'', star, maxOrbits, slots⟩ := star?_stamp found' i content
  have stored := storedOrbit?_stamp_self stands (b := a.setStar id writing) (length_setStar _) i
  exact {
    length := by rw [length_stamp, length_setStar]
    star := fun known => by
      obtain rfl := Option.eq_some_unique found known
      exact ⟨t, found'', star, maxOrbits, by rw [slots, hwriting, StarSystem.length_setSlot]⟩
    stored := fun {other} apart => by
      rw [storedOrbit?_stamp fun body mem mem' => apart body mem (shared ▸ mem')]
      exact storedOrbit?_setStar (t := writing) found rfl other
    slot := fun {j other} held' => by
      rw [slot?_stamp found', slot?_eq found'] at held'
      by_cases same : i = j
      · subst same
        have here : writing.slots[i]? = some (content.stamp i) :=
          List.getElem?_set_self (List.getElem?_eq_some_iff.mp held).1
        obtain rfl := Option.eq_some_unique here held'
        refine .inr ⟨free.imp_left fun free => ?_, reached, fun body mem => ?_, stored⟩
        · rw [slot?_eq found, held, free]
        · rwa [shared'] at mem
      · have there : writing.slots[j]? = s.slots[j]? := List.getElem?_set_ne same
        rw [there, ← slot?_eq found] at held'
        exact .inl held' }

/-- A body is placed exactly on an undecided orbit. -/
lemma place_eq_ite (found : a.star? id = some s) (content : Slot) (orbit : Int) :
    a.place id content orbit = if s.isUndecided orbit then .ok (a.put id s content orbit)
      else .error (.slotRefused orbit s.name (s.refusal a.main.name orbit)) := by
  rw [Atlas.place, star_eq found]
  simp only [bind, Except.bind, StarSystem.place]
  by_cases free : s.isUndecided orbit = true
  · simp only [free, if_true]
    rfl
  · simp only [free]
    rfl

/-- A body is forced exactly into an orbit in range. -/
lemma force_eq_match (found : a.star? id = some s) (content : Slot) (orbit : Int) :
    a.force id content orbit = match s.slotAt? orbit with
      | some previous => .ok (previous, a.put id s content orbit)
      | none => .error (.outsideSlots orbit s.name s.maxOrbits) := by
  rw [Atlas.force, star_eq found]
  simp only [bind, Except.bind, StarSystem.force]
  cases s.slotAt? orbit <;> rfl

end Atlas

end Starchart
