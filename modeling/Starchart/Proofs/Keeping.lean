import Mathlib.Order.Defs.Unbundled
import Starchart.Proofs.Growth

/-!
# What lasts

The slots of a chart are written once.  A step decides undecided slots and furnishes the bodies in
decided ones with satellites, and otherwise leaves the chart alone; the work on a phase leaves the star
in that phase; and the main world is moved and surveyed, but keeps its name, digits and facilities.  Each
of these is a preorder on stars or charts, and each write to a chart moves it along the preorders that
allow for it.

## Main definitions

* `Starchart.Slot.Lasts` — what is decided about a slot stays so.
* `Starchart.StarSystem.Keeps`, `Starchart.Atlas.Keeps` — stars and charts on which it does, apart from
  one slot that the main world may take.
* `Starchart.StarSystem.Gains` — a star on which it does and that stays in its phase.
* `Starchart.World.Remains` — the same world, perhaps elsewhere.
* `Starchart.Atlas.Remains`, `Starchart.Atlas.KeepsMain` — charts with the same main world.
* `Starchart.Atlas.Admits` — what may happen to a star along a relation between charts.

## Main results

* `Starchart.Atlas.admits_keeps`, `Starchart.Atlas.admits_keepsMain` — whatever happens to a star keeps
  what is decided, and the main world.
* `Starchart.Atlas.remains_force` — seating the main world leaves it and the phases alone.
-/

set_option autoImplicit false

namespace Starchart

/-! ## What lasts -/

/-- What is decided about a slot stays so: the same mark, companion star or body is in it, where a
body may get other satellites and a gas giant another name. -/
inductive Slot.Lasts : Slot → Slot → Prop
  | undecided {after : Slot} : Lasts .undecided after
  | empty {orbit : Int} : Lasts (.empty orbit) (.empty orbit)
  | world {w : World} {moons : List (Moon World)} :
      Lasts (.world w) (.world { w with satellites := moons })
  | giant {g : GasGiant} {name : String} {moons : List (Moon World)} :
      Lasts (.giant g) (.giant { g with name := name, satellites := moons })
  | main : Lasts .main .main
  | star {id : StarId} {name : String} {star : Star} : Lasts (.star id name star) (.star id name star)

namespace Slot.Lasts

variable {content mid after : Slot}

/-- What is in a slot lasts while nothing happens. -/
lemma refl (content : Slot) : content.Lasts content := by
  cases content with
  | undecided => exact .undecided
  | empty orbit => exact .empty
  | world w =>
    cases w
    exact .world
  | giant g => exact .giant
  | main => exact .main
  | star id name star => exact .star

/-- What lasts from step to step lasts. -/
lemma trans (h : content.Lasts mid) (h' : mid.Lasts after) : content.Lasts after := by
  cases h with
  | undecided => exact .undecided
  | empty => exact h'
  | world =>
    cases h'
    exact .world
  | giant =>
    cases h'
    exact .giant
  | main => exact h'
  | star => exact h'

end Slot.Lasts

/-- A body is the same as itself, and as whatever is the same as the same body. -/
instance Host.isPreorder_sameBody : IsPreorder Host Host.SameBody where
  refl host := by
    have same := Host.sameBody_withSatellites host.satellites host
    rwa [Host.withSatellites_satellites] at same
  trans _ _ _ := Host.SameBody.trans

/-! ## Stars -/

namespace StarSystem

/-- A star that differs in nothing but its progress and its slots, where all that was decided
lasts. -/
structure Keeps (s t : StarSystem) : Prop where
  alike : s.Alike t
  slot : ∀ {i : Nat} {content : Slot}, s.slots[i]? = some content →
    ∃ after, t.slots[i]? = some after ∧ content.Lasts after

/-- Stars keep what is decided from step to step. -/
instance isPreorder_keeps : IsPreorder StarSystem Keeps where
  refl s := ⟨.refl s, fun {_ content} held => ⟨content, held, .refl content⟩⟩
  trans s t u h h' := by
    refine ⟨h.alike.trans h'.alike, fun held => ?_⟩
    obtain ⟨mid, held', lasts⟩ := h.slot held
    obtain ⟨after, held'', lasts'⟩ := h'.slot held'
    exact ⟨after, held'', lasts.trans lasts'⟩

/-- A star in the phase of before. -/
def Abides (s t : StarSystem) : Prop := t.phase = s.phase

/-- A star stays in its phase from step to step. -/
instance isPreorder_abides : IsPreorder StarSystem Abides where
  refl _ := rfl
  trans _ _ _ h h' := h'.trans h

/-- A star on which more may be decided, in the phase of before. It is what the work within one
phase makes of a star. -/
structure Gains (s t : StarSystem) : Prop where
  keeps : s.Keeps t
  abides : s.Abides t

/-- A star gains from step to step. -/
instance isPreorder_gains : IsPreorder StarSystem Gains where
  refl s := ⟨refl_of Keeps s, refl_of Abides s⟩
  trans _ _ _ h h' := ⟨trans_of Keeps h.keeps h'.keeps, trans_of Abides h.abides h'.abides⟩

variable {s t : StarSystem}

/-- A star that has the slots of before keeps what is decided. -/
lemma keeps_of_slots_eq (alike : s.Alike t) (same : t.slots = s.slots) : s.Keeps t :=
  ⟨alike, fun {_ content} held => ⟨content, same.symm ▸ held, .refl content⟩⟩

/-- A slot gets content for which what it held lasts. -/
lemma keeps_set {i : Nat} {content after : Slot} (held : s.slots[i]? = some content)
    (lasts : content.Lasts after) : s.Keeps { s with slots := s.slots.set i after } where
  alike := ⟨rfl, rfl, rfl, rfl, List.length_set, rfl, rfl⟩
  slot {j other} held' := by
    by_cases same : i = j
    · subst same
      obtain rfl := Option.eq_some_unique held held'
      exact ⟨after, List.getElem?_set_self (List.getElem?_eq_some_iff.mp held).1, lasts⟩
    · exact ⟨other, (List.getElem?_set_ne same).trans held', .refl other⟩

/-- A body that is placed takes an undecided slot. -/
lemma gains_place {main : String} {body : Slot} {orbit : Int}
    (placed : s.place main body orbit = .ok t) : s.Gains t := by
  unfold place at placed
  split at placed
  · rename_i free
    cases placed
    obtain ⟨i, rfl, held⟩ := held_of_isUndecided free
    exact ⟨keeps_set held .undecided, rfl⟩
  · cases placed

/-- An orbit that is marked to stay empty was undecided. -/
lemma gains_markEmpty (s : StarSystem) (orbit : Int) : s.Gains (s.markEmpty orbit).2 := by
  unfold markEmpty
  split
  · rename_i free
    obtain ⟨i, rfl, held⟩ := held_of_isUndecided free
    exact ⟨keeps_set held .undecided, rfl⟩
  · exact refl_of Gains s

/-- So were several. -/
lemma gains_markEmpties (s : StarSystem) (orbits : List Int) : s.Gains (s.markEmpties orbits) := by
  induction orbits generalizing s with
  | nil => exact refl_of Gains s
  | cons orbit rest ih => exact trans_of Gains (s.gains_markEmpty orbit) (ih _)

/-- Entering a phase sets nothing else. -/
lemma of_enter_ok {phase : Phase} (entered : s.enter phase = .ok t) :
    t = { s with phase := some phase } := by
  unfold enter at entered
  split at entered
  · cases entered
    rfl
  · cases entered

/-- Entering a phase leaves all slots alone. -/
lemma keeps_enter {phase : Phase} (entered : s.enter phase = .ok t) : s.Keeps t := by
  obtain rfl := of_enter_ok entered
  exact keeps_of_slots_eq ⟨rfl, rfl, rfl, rfl, rfl, rfl, rfl⟩ rfl

end StarSystem

/-! ## The main world -/

/-- The same world, perhaps elsewhere: name, digits and facilities are as before; it is the main
world if it was; and the flag of a satellite is kept, or was set because the world belongs into the
habitable zone. -/
structure World.Remains (w v : World) : Prop where
  name : v.name = w.name
  profile : v.profile = w.profile
  facilities : v.facilities = w.facilities
  isMain : w.isMain = true → v.isMain = true
  flag : v.isSatellite = w.isSatellite ∨
    v.isSatellite = true ∧ w.profile.needsHabitable = true

/-- A world remains the same from step to step. -/
instance World.isPreorder_remains : IsPreorder World World.Remains where
  refl w := ⟨rfl, rfl, rfl, fun main => main, .inl rfl⟩
  trans w v u h h' := by
    refine ⟨h'.name.trans h.name, h'.profile.trans h.profile, h'.facilities.trans h.facilities,
      fun main => h'.isMain (h.isMain main), ?_⟩
    rcases h'.flag with same | ⟨set, needs⟩
    · rw [same]
      exact h.flag
    · exact .inr ⟨set, h.profile ▸ needs⟩

/-- A world remains the same on another orbit. -/
lemma World.remains_moved (w : World) (orbit position : Int) :
    w.Remains { w with orbit := orbit, position := position } :=
  ⟨rfl, rfl, rfl, fun main => main, .inl rfl⟩

/-! ## Charts -/

namespace Atlas

/-- A chart on which stars stay alike and all that was decided lasts, except that the main world may
have taken the slot `seat`. -/
structure Keeps (seat : Option (StarId × Nat)) (a b : Atlas) : Prop where
  length : b.stars.length = a.stars.length
  star : ∀ {id : StarId} {s : StarSystem}, a.star? id = some s →
    ∃ t, b.star? id = some t ∧ s.Alike t
  slot : ∀ {id : StarId} {i : Nat} {content : Slot}, a.slot? id i = some content →
    ∃ after, b.slot? id i = some after ∧
      (content.Lasts after ∨ seat = some (id, i) ∧ after = .main)

/-- Charts keep what is decided from step to step. -/
instance isPreorder_keeps (seat : Option (StarId × Nat)) : IsPreorder Atlas (Keeps seat) where
  refl a := ⟨rfl, fun {_ s} found => ⟨s, found, .refl s⟩,
    fun {_ _ content} held => ⟨content, held, .inl (.refl content)⟩⟩
  trans a b c h h' := by
    refine ⟨h'.length.trans h.length, fun found => ?_, fun held => ?_⟩
    · obtain ⟨t, found', alike⟩ := h.star found
      obtain ⟨u, found'', alike'⟩ := h'.star found'
      exact ⟨u, found'', alike.trans alike'⟩
    · obtain ⟨mid, held', lasts⟩ := h.slot held
      obtain ⟨after, held'', lasts'⟩ := h'.slot held'
      refine ⟨after, held'', ?_⟩
      rcases lasts' with lasts' | taken
      · rcases lasts with lasts | ⟨here, rfl⟩
        · exact .inl (lasts.trans lasts')
        · cases lasts'
          exact .inr ⟨here, rfl⟩
      · exact .inr taken

variable {seat : Option (StarId × Nat)} {a b : Atlas} {id : StarId} {s t : StarSystem}

/-- Where no slot is taken, any one might have been. -/
lemma Keeps.of_none (h : a.Keeps none b) : a.Keeps seat b where
  length := h.length
  star := h.star
  slot held := by
    obtain ⟨after, held', lasts⟩ := h.slot held
    exact ⟨after, held', .inl (lasts.resolve_right fun taken => nomatch taken.1)⟩

/-- Another main world changes no slot. -/
lemma keeps_main (a : Atlas) (w : World) : a.Keeps seat { a with main := w } where
  length := rfl
  star {_ s} found := ⟨s, found, .refl s⟩
  slot {_ _ content} held := ⟨content, held, .inl (.refl content)⟩

/-- Replacing a star by one that keeps what is decided.

**Proof sketch.** By cases on whether a star is the one that is replaced. If so, the replacement
keeps what is decided; all others are as they were. -/
lemma keeps_setStar (found : a.star? id = some s) (keeps : s.Keeps t) :
    a.Keeps seat (a.setStar id t) where
  length := length_setStar t
  star {other u} known := by
    by_cases same : other = id
    · subst same
      obtain rfl := Option.eq_some_unique found known
      exact ⟨t, star?_setStar_self found t, keeps.alike⟩
    · exact ⟨u, (star?_setStar_of_ne same t).trans known, .refl u⟩
  slot {other i content} held := by
    by_cases same : other = id
    · subst same
      rw [slot?_eq found] at held
      obtain ⟨after, held', lasts⟩ := keeps.slot held
      exact ⟨after, (slot?_eq (star?_setStar_self found t) i).trans held', .inl lasts⟩
    · refine ⟨content, ?_, .inl (.refl content)⟩
      rwa [slot?, star?_setStar_of_ne same]

/-- What changing the body in a slot into the same one comes to: the slot gets content for which
what it held lasts, and the main world, if it is the body, gets other satellites.

**Proof sketch.** By cases on the content of the slot. A world or a gas giant is replaced in the
slot itself. The main world is not in the slot but on the chart: there it gets the satellites, while
the slot is set to what it holds. -/
lemma exists_setHost {i : Nat} {host after : Host} (hosted : a.host? id i = some host)
    (same : host.SameBody after) : ∃ s content later w, a.star? id = some s ∧
      s.slots[i]? = some content ∧ content.Lasts later ∧
      (∀ g, later = .giant g → after = .giant g) ∧
      w.bare = a.main.bare ∧
      a.setHost id i after =
        { a.setStar id { s with slots := s.slots.set i later } with main := w } := by
  rw [host?_eq] at hosted
  obtain ⟨content, held, hosted⟩ := Option.bind_eq_some_iff.mp hosted
  obtain ⟨s, found, heldS⟩ := exists_star held
  cases content with
  | world w =>
    cases hosted
    cases same
    exact ⟨s, _, _, a.main, found, heldS, .world, fun _ => nofun, rfl, setHost_world found heldS _⟩
  | giant g =>
    cases hosted
    cases same
    exact ⟨s, _, _, a.main, found, heldS, .giant,
      fun _ here => congrArg Host.giant (Slot.giant.inj here), rfl, setHost_giant found _⟩
  | main =>
    cases hosted
    cases same
    rename_i moons
    have kept : s.slots.set i .main = s.slots := by
      obtain ⟨lt, here⟩ := List.getElem?_eq_some_iff.mp heldS
      rw [← here, List.set_getElem_self lt]
    refine ⟨s, _, _, { a.main with satellites := moons }, found, heldS, .main, fun _ => nofun, rfl, ?_⟩
    rw [setHost_main held, kept, setStar_self found]
  | _ => cases hosted

/-- Replacing the body in a slot by the same one. -/
lemma keeps_setHost {i : Nat} {host after : Host} (hosted : a.host? id i = some host)
    (same : host.SameBody after) : a.Keeps seat (a.setHost id i after) := by
  obtain ⟨s, content, later, w, found, held, lasts, -, -, chart⟩ := exists_setHost hosted same
  rw [chart]
  exact trans_of (Keeps seat) (keeps_setStar found (StarSystem.keeps_set held lasts)) (keeps_main _ w)

/-! ### The main world of a chart -/

/-- A chart with the same main world, perhaps elsewhere, whose stars are in the phases of before.
The work within a phase keeps to this. -/
structure Remains (a b : Atlas) : Prop where
  main : a.main.Remains b.main
  star : ∀ {id : StarId} {s : StarSystem}, a.star? id = some s →
    ∃ t, b.star? id = some t ∧ s.Abides t

/-- A chart remains the same from step to step. -/
instance isPreorder_remains : IsPreorder Atlas Remains where
  refl a := ⟨refl_of World.Remains a.main, fun {_ s} found => ⟨s, found, rfl⟩⟩
  trans a b c h h' := by
    refine ⟨trans_of World.Remains h.main h'.main, fun found => ?_⟩
    obtain ⟨t, found', abides⟩ := h.star found
    obtain ⟨u, found'', abides'⟩ := h'.star found'
    exact ⟨u, found'', trans_of StarSystem.Abides abides abides'⟩

/-- Another version of the main world. -/
lemma remains_main {w : World} (same : a.main.Remains w) : a.Remains { a with main := w } :=
  ⟨same, fun {_ s} found => ⟨s, found, rfl⟩⟩

/-- A star replaced by one in its phase. -/
lemma remains_setStar (found : a.star? id = some s) (same : s.Abides t) :
    a.Remains (a.setStar id t) := by
  refine ⟨refl_of World.Remains a.main, fun {other u} known => ?_⟩
  by_cases here : other = id
  · subst here
    obtain rfl := Option.eq_some_unique found known
    exact ⟨t, star?_setStar_self found t, same⟩
  · exact ⟨u, (star?_setStar_of_ne here t).trans known, rfl⟩

/-- A star changed in all but its phase. -/
lemma remains_modifyStar {f : StarSystem → StarSystem} (same : ∀ s : StarSystem, s.Abides (f s)) :
    a.Remains (a.modifyStar id f) := by
  cases found : a.star? id with
  | none =>
    rw [modifyStar_of_none found]
    exact refl_of Remains a
  | some s =>
    rw [modifyStar_eq found]
    exact remains_setStar found (same s)

/-- A stamped body. -/
lemma remains_stamp (orbit : Int) (body : Slot) : a.Remains (a.stamp orbit body) := by
  cases body with
  | main => exact remains_main ⟨rfl, rfl, rfl, fun main => main, .inl rfl⟩
  | star => exact remains_modifyStar fun _ => rfl
  | _ => exact refl_of Remains a

/-- A body with other satellites, or under another name. -/
lemma remains_setHost {i : Nat} {host after : Host} (hosted : a.host? id i = some host)
    (same : host.SameBody after) : a.Remains (a.setHost id i after) := by
  obtain ⟨s, content, later, w, found, -, -, -, moons, chart⟩ := exists_setHost hosted same
  have star : a.Remains (a.setStar id { s with slots := s.slots.set i later }) :=
    remains_setStar found rfl
  have main : a.main.Remains w := {
    name := (congrArg World.name moons :)
    profile := (congrArg World.profile moons :)
    facilities := (congrArg World.facilities moons :)
    isMain := fun main => (congrArg World.isMain moons :).trans main
    flag := .inl (congrArg World.isSatellite moons :) }
  rw [chart]
  exact trans_of Remains star (remains_main main)

/-- A chart that remains the same if its main world belongs into the habitable zone. -/
def RemainsHabitable (a b : Atlas) : Prop := a.main.profile.needsHabitable = true → a.Remains b

/-- Such a chart remains the same from step to step. -/
instance isPreorder_remainsHabitable : IsPreorder Atlas RemainsHabitable where
  refl a _ := refl_of Remains a
  trans a b c h h' needs := by
    have first := h needs
    exact trans_of Remains first (h' (first.main.profile.symm ▸ needs))

/-- Placing a body by force leaves the main world and the phases alone.

**Proof sketch.** Forcing a body writes one slot of a star, which keeps its phase, and then stamps
the body with its orbit; of the main world this changes the orbit at most. -/
lemma remains_force {body previous : Slot} {orbit : Int}
    (forced : a.force id body orbit = .ok (previous, b)) : a.Remains b := by
  unfold force at forced
  cases found : a.star? id with
  | none => simp [star, found, bind, Except.bind] at forced
  | some s =>
    simp only [star_eq found, bind, Except.bind] at forced
    cases taken : s.force body orbit with
    | error e => simp [taken] at forced
    | ok answer =>
      obtain ⟨held, t⟩ := answer
      simp only [taken] at forced
      cases forced
      have same : s.Abides t := by
        unfold StarSystem.force at taken
        split at taken
        · cases taken
          rfl
        · cases taken
      exact trans_of Remains (remains_setStar found same) (remains_stamp orbit body)

/-- A chart with the same main world, perhaps elsewhere. -/
def KeepsMain (a b : Atlas) : Prop := a.main.Remains b.main

/-- The main world is kept from step to step. -/
instance isPreorder_keepsMain : IsPreorder Atlas KeepsMain where
  refl a := refl_of World.Remains a.main
  trans _ _ _ h h' := trans_of World.Remains h h'

/-! ### What may happen to a star -/

/-- Deciding slots of star `id` and furnishing its bodies moves a chart along `R`. A preorder that
admits this for every star is kept by every phase apart from that of the main world. -/
structure Admits (id : StarId) (R : Atlas → Atlas → Prop) : Prop where
  star : ∀ {a : Atlas} {s t : StarSystem}, a.star? id = some s → s.Keeps t → R a (a.setStar id t)
  host : ∀ {a : Atlas} {i : Nat} {host after : Host}, a.host? id i = some host →
    host.SameBody after → R a (a.setHost id i after)

/-- Whatever happens to a star keeps what is decided. -/
lemma admits_keeps (id : StarId) : Admits id (Keeps seat) where
  star := keeps_setStar
  host := keeps_setHost

/-- It keeps the main world. -/
lemma admits_keepsMain (id : StarId) : Admits id KeepsMain where
  star {a _ _} _ _ := refl_of World.Remains a.main
  host hosted same := (remains_setHost hosted same).main

end Atlas

end Starchart
