import Starchart.Proofs.Seat

/-!
# Displaced bodies and hosts

Seating the main world is the one step that may overwrite a decided slot.  It overwrites one slot at
most, and whatever body it displaces there is noted in the journal by the name that it has at that
moment.  So are the bodies that the main world comes to instead: companion stars on the way to its
seat, and the gas giant that it is a moon of.

## Main definitions

* `Starchart.Journal.reported` — what a journal notes on placements.
* `Starchart.Journal.displacements` — the displaced bodies that it notes.
* `Starchart.Journal.hosts` — the hosts that it notes.
* `Starchart.Atlas.displaced` — the body that the main world displaces from a slot.
* `Starchart.Atlas.Fitted` — charts whose stars have as many slots as their capacity says.
* `Starchart.Atlas.Hosted` — the bodies that the main world came to.
* `Starchart.Population.Displaces` — a seat for the main world, and the note that goes with it.
* `Starchart.Population.Places` — the same with all notes on the way.

## Main results

* `Starchart.Population.places_placeMain` — placing the main world displaces one body at most, and
  notes that body and the hosts.
-/

set_option autoImplicit false

namespace Starchart

/-! ## Notes on placements -/

/-- What a note on a placement reports under a key, if it does. -/
def Diagnostic.reported? (key : String) (d : Diagnostic) : Option Json :=
  if d.category = .placement then d.data.lookup key else none

/-- What a note on a placement reports as replaced, if it does. -/
def Diagnostic.replaced? (d : Diagnostic) : Option Json := d.reported? "replaced"

namespace Journal

/-- What the notes on placements in a journal report under a key, in order. -/
def reported (key : String) (j : Journal) : List Json :=
  j.diagnostics.filterMap (Diagnostic.reported? key)

/-- What the notes on placements in a journal report as replaced, in order. -/
def displacements (j : Journal) : List Json := j.reported "replaced"

/-- What the notes on placements in a journal report as hosts, in order. -/
def hosts (j : Journal) : List Json := j.reported "host"

/-- What is reported is looked up in each part of a journal. -/
lemma reported_append (key : String) (a b : Journal) :
    reported key (a ++ b) = reported key a ++ reported key b := by
  simp only [reported, diagnostics_append, List.filterMap_append]

/-- One more diagnostic reports at most one thing under a key. -/
lemma reported_diagnosed (key : String) (d : Diagnostic) :
    reported key [.diagnosed d] = (d.reported? key).toList := by
  cases h : d.reported? key <;> simp [reported, diagnostics, Event.diagnostic?, h]

/-- Without notes on placements nothing more is reported. -/
lemma Adds.reported_eq {kinds : List Category} {a b : Journal} (h : Adds kinds a b)
    (other : .placement ∉ kinds) (key : String) : reported key b = reported key a := by
  obtain ⟨events, rfl, ofKinds⟩ := h
  have none : reported key events = [] := by
    refine List.filterMap_eq_nil_iff.mpr fun d mem => if_neg fun placement => other ?_
    exact placement ▸ ofKinds d mem
  rw [reported_append, none, List.append_nil]

/-- Replaced bodies are looked up in each part of a journal. -/
@[simp] lemma displacements_append (a b : Journal) :
    displacements (a ++ b) = displacements a ++ displacements b :=
  reported_append "replaced" a b

/-- One more diagnostic reports at most one replaced body. -/
@[simp] lemma displacements_diagnosed (d : Diagnostic) :
    displacements [.diagnosed d] = d.replaced?.toList :=
  reported_diagnosed "replaced" d

/-- Hosts are looked up in each part of a journal. -/
@[simp] lemma hosts_append (a b : Journal) : hosts (a ++ b) = hosts a ++ hosts b :=
  reported_append "host" a b

/-- Without notes on placements nothing more is reported as a host. -/
lemma Adds.hosts_eq {kinds : List Category} {a b : Journal} (h : Adds kinds a b)
    (other : .placement ∉ kinds) : hosts b = hosts a :=
  h.reported_eq other "host"

/-- Without notes on placements nothing more is reported as replaced. -/
lemma Adds.displacements_eq {kinds : List Category} {a b : Journal} (h : Adds kinds a b)
    (other : .placement ∉ kinds) : displacements b = displacements a :=
  h.reported_eq other "replaced"

end Journal

/-! ## Charts before and after -/

/-- The slot that a star with the slots of its capacity answers with, for an orbit that is not
negative unless it has none, is the one with that number.

**Proof sketch.** A negative number is counted from the end, but it may be asked for only where
there are no slots to count. Any other number is looked up as it is. -/
lemma StarSystem.held_of_slot {s : StarSystem} (fitted : s.slots.length = s.maxOrbits.toNat)
    {orbit : Int} {content : Slot} (aim : 0 ≤ orbit ∨ s.maxOrbits ≤ 0)
    (answered : s.slot orbit = .ok content) :
    ∃ i : Nat, orbit = i ∧ s.slots[i]? = some content := by
  unfold slot at answered
  dsimp only at answered
  rcases Int.lt_or_le orbit 0 with neg | nonneg
  · have none : ¬0 ≤ if orbit < 0 then orbit + (s.slots.length : Int) else orbit := by
      rw [if_pos neg]
      omega
    rw [if_neg none] at answered
    split at answered <;> cases answered
  · have index : (if orbit < 0 then orbit + (s.slots.length : Int) else orbit) = orbit :=
      if_neg (by omega)
    rw [index, if_pos nonneg] at answered
    split at answered
    · cases answered
    split at answered
    · rename_i found
      cases answered
      exact ⟨orbit.toNat, by omega, found⟩
    · cases answered

/-- The orbit to aim at is not negative, unless the star has no orbits. -/
lemma StarSystem.target_nonneg_or (s : StarSystem) (zones : Zones) :
    0 ≤ s.target zones ∨ s.maxOrbits ≤ 0 := by
  have nonneg := zones.aim_nonneg
  unfold target
  omega

namespace Atlas

/-- The name of the body in the slot that the main world takes, if there is one. -/
def displaced (a : Atlas) : Option (StarId × Nat) → List String
  | none => []
  | some (id, i) => ((a.slot? id i).bind (Slot.bodyName? a.main.name)).toList

/-- The stars of the chart have as many slots as their capacity says, and none below zero. -/
def Fitted (a : Atlas) : Prop :=
  ∀ ⦃id : StarId⦄ ⦃s : StarSystem⦄, a.star? id = some s → s.slots.length = s.maxOrbits.toNat

/-- A chart on which stars stay alike and nothing is written into slots, and the main world keeps
its name. -/
structure Undisturbed (a b : Atlas) : Prop where
  keeps : a.Keeps none b
  slot : ∀ (id : StarId) (i : Nat), b.slot? id i = a.slot? id i
  name : b.main.name = a.main.name

/-- Charts stay undisturbed from step to step. -/
instance isPreorder_undisturbed : IsPreorder Atlas Undisturbed where
  refl a := ⟨refl_of (Keeps none) a, fun _ _ => rfl, rfl⟩
  trans _ _ _ h h' := ⟨trans_of (Keeps none) h.keeps h'.keeps,
    fun id i => (h'.slot id i).trans (h.slot id i), h'.name.trans h.name⟩

/-- What the main world came to when a seat was searched for it from a star on, and the names of
those bodies: each companion that the search went on to, and the gas giant that the main world is a
moon of in the end, unless it took a slot, which is given. -/
inductive Hosted (a b : Atlas) : StarId → Option (StarId × Nat) → List String → Prop
  | slot {id : StarId} {i : Nat} : Hosted a b id (some (id, i)) []
  | moon {id : StarId} {i : Nat} {g : GasGiant} (held : a.slot? id i = some (.giant g))
      (taken : b.slot? id i = some (.giant { g with satellites := g.satellites ++ [.main] })) :
      Hosted a b id none [g.name]
  | into {id companion : StarId} {i : Nat} {name : String} {star : Star} {c : StarSystem}
      {place : Option (StarId × Nat)} {hosts : List String}
      (held : a.slot? id i = some (.star companion name star))
      (found : a.star? companion = some c) (rest : Hosted a b companion place hosts) :
      Hosted a b id place (c.name :: hosts)

variable {a b c : Atlas} {id : StarId} {s t : StarSystem} {seat : Option (StarId × Nat)}

/-- Stars that stay alike were there before. -/
lemma Keeps.exists_before (h : a.Keeps seat b) (found : b.star? id = some t) :
    ∃ s, a.star? id = some s ∧ s.Alike t := by
  obtain ⟨s, known⟩ := exists_star_of_lt (h.length ▸ lt_length found)
  obtain ⟨t', found', alike⟩ := h.star known
  obtain rfl := Option.eq_some_unique found found'
  exact ⟨s, known, alike⟩

/-- Stars that stay alike have as many slots as before. -/
lemma Fitted.of_keeps (fitted : a.Fitted) (h : a.Keeps seat b) : b.Fitted := by
  intro id t found
  obtain ⟨s, known, alike⟩ := h.exists_before found
  rw [alike.length, alike.maxOrbits]
  exact fitted known

/-- The main world displaces from an undisturbed chart what it would have displaced before. -/
lemma Undisturbed.displaced_eq (h : a.Undisturbed b) : b.displaced seat = a.displaced seat := by
  cases seat with
  | none => rfl
  | some place => simp only [displaced, h.name, h.slot]

/-- From an undisturbed chart the main world comes to the bodies that it would have come to
before. -/
lemma Undisturbed.hosted (h : a.Undisturbed b) {hosts : List String}
    (hosted : b.Hosted c id seat hosts) : a.Hosted c id seat hosts := by
  induction hosted with
  | slot => exact .slot
  | moon held taken => exact .moon ((h.slot _ _).symm.trans held) taken
  | into held found _ ih =>
    obtain ⟨d, known, alike⟩ := h.keeps.exists_before found
    exact alike.name ▸ .into ((h.slot _ _).symm.trans held) known ih

/-- A star that progresses leaves the chart undisturbed. -/
lemma undisturbed_setStar (found : a.star? id = some s) (alike : s.Alike t)
    (same : t.slots = s.slots) : a.Undisturbed (a.setStar id t) where
  keeps := keeps_setStar found (StarSystem.keeps_of_slots_eq alike same)
  slot other i := by
    by_cases here : other = id
    · subst here
      rw [slot?_eq found, slot?_eq (star?_setStar_self found t), same]
    · rw [slot?, slot?, star?_setStar_of_ne here]
  name := rfl

/-- So does the main world, unless it is renamed. -/
lemma undisturbed_main {w : World} (same : w.name = a.main.name) :
    a.Undisturbed { a with main := w } :=
  ⟨a.keeps_main w, fun _ _ => rfl, same⟩

/-- Assigning the main world to a star leaves the chart undisturbed. -/
lemma undisturbed_assign (a : Atlas) (id : StarId) : a.Undisturbed (a.assign id) := by
  cases found : a.star? id with
  | some s =>
    rw [assign, modifyStar_eq found]
    exact undisturbed_setStar found ⟨rfl, rfl, rfl, rfl, rfl, rfl, rfl⟩ rfl
  | none =>
    have same : a.stars.modify id (fun s => { s with hasMain := true }) = a.stars := by
      refine List.modify_eq_self ?_
      exact List.getElem?_eq_none_iff.mp found
    rw [assign, modifyStar, same]
    exact refl_of Undisturbed a

/-- The main world takes a slot, and everything else lasts.

**Proof sketch.** The slots of other stars, and the other slots of this one, are those of before.
The slot itself holds the main world, and it is the one that may be taken. -/
lemma keeps_seated (found : a.star? id = some s) (i : Nat) :
    a.Keeps (some (id, i)) (a.setStar id { s with slots := s.slots.set i .main }) where
  length := length_setStar _
  star {other u} known := by
    by_cases same : other = id
    · subst same
      obtain rfl := Option.eq_some_unique found known
      exact ⟨_, star?_setStar_self found _, rfl, rfl, rfl, rfl, List.length_set, rfl, rfl⟩
    · exact ⟨u, (star?_setStar_of_ne same _).trans known, .refl u⟩
  slot {other j content} held := by
    by_cases same : other = id
    · subst same
      have found' := star?_setStar_self found { s with slots := s.slots.set i .main }
      rw [slot?_eq found] at held
      by_cases here : i = j
      · subst here
        refine ⟨.main, (slot?_eq found' i).trans ?_, .inr ⟨rfl, rfl⟩⟩
        exact List.getElem?_set_self (List.getElem?_eq_some_iff.mp held).1
      · refine ⟨content, (slot?_eq found' j).trans ?_, .inl (.refl content)⟩
        exact (List.getElem?_set_ne here).trans held
    · refine ⟨content, ?_, .inl (.refl content)⟩
      rwa [slot?, star?_setStar_of_ne same]

/-- The slot that the main world took holds it. -/
lemma slot?_seated (found : a.star? id = some s) {i : Nat} {content : Slot}
    (held : s.slots[i]? = some content) (w : World) : Atlas.slot?
      { a.setStar id { s with slots := s.slots.set i .main } with main := w } id i = some .main := by
  have found' := star?_setStar_self found { s with slots := s.slots.set i .main }
  refine (slot?_eq found' i).trans ?_
  exact List.getElem?_set_self (List.getElem?_eq_some_iff.mp held).1

/-- What forcing the main world onto an orbit of a star comes to. -/
lemma of_force_main_ok {orbit : Int} {previous : Slot} (h : a.force id .main orbit = .ok (previous, b)) :
    ∃ (i : Nat) (s : StarSystem), orbit = i ∧ a.star? id = some s ∧ s.slots[i]? = some previous ∧
      b = { a.setStar id { s with slots := s.slots.set i .main } with
        main := { a.main with orbit := i } } := by
  unfold force at h
  cases found : a.star? id with
  | none =>
    rw [star, found] at h
    cases h
  | some s =>
    rw [star_eq found] at h
    simp only [bind, Except.bind] at h
    cases held : s.slotAt? orbit with
    | none =>
      rw [StarSystem.force, held] at h
      cases h
    | some content =>
      rw [StarSystem.force, held] at h
      obtain ⟨i, rfl, slot⟩ := StarSystem.held_of_slotAt? held
      cases h
      exact ⟨i, s, rfl, rfl, slot, rfl⟩

end Atlas

/-! ## Seats -/

namespace Population

open Gen

variable {σ : Type} {id : StarId} {limit : Int} {run mid after : Run σ Atlas}
  {place : Option (StarId × Nat)} {hosts : List String}

/-- The main world took the slot `place`, if any, and the body that it displaced there is noted; all
else that was decided lasts. Without a place nothing is displaced, and nothing is noted. -/
structure Displaces (place : Option (StarId × Nat)) (run after : Run σ Atlas) : Prop where
  keeps : run.scene.Keeps place after.scene
  taken : ∀ {id : StarId} {i : Nat}, place = some (id, i) → after.scene.slot? id i = some .main
  noted : after.journal.displacements =
    run.journal.displacements ++ (run.scene.displaced place).map fun (body : String) => .text body

/-- Steps that leave the chart undisturbed may come before. -/
lemma Displaces.after_undisturbed (h : Displaces place mid after)
    (undisturbed : run.scene.Undisturbed mid.scene)
    (quiet : mid.journal.displacements = run.journal.displacements) : Displaces place run after where
  keeps := trans_of (Atlas.Keeps place) undisturbed.keeps.of_none h.keeps
  taken := h.taken
  noted := by rw [h.noted, quiet, undisturbed.displaced_eq]

/-- Steps that keep what is decided may come afterwards. -/
lemma Displaces.before_kept (h : Displaces place run mid) (keeps : mid.scene.Keeps none after.scene)
    (quiet : after.journal.displacements = mid.journal.displacements) :
    Displaces place run after where
  keeps := trans_of (Atlas.Keeps place) h.keeps keeps.of_none
  taken here := by
    obtain ⟨content, held, lasts⟩ := keeps.slot (h.taken here)
    cases lasts.resolve_right fun taken => nomatch taken.1
    exact held
  noted := quiet.trans h.noted

/-- The main world was placed from star `id` on.  It took the slot `place`, if any, and the bodies
that it displaced and that it came to are noted. -/
structure Places (id : StarId) (place : Option (StarId × Nat)) (hosts : List String)
    (run after : Run σ Atlas) : Prop extends Displaces place run after where
  hosted : run.scene.Hosted after.scene id place hosts
  announced : after.journal.hosts =
    run.journal.hosts ++ hosts.map fun (host : String) => .text host

/-- Steps that leave the chart undisturbed and note no placement may come before. -/
lemma Places.after_undisturbed (h : Places id place hosts mid after)
    (undisturbed : run.scene.Undisturbed mid.scene) {kinds : List Category}
    (quiet : Journal.Adds kinds run.journal mid.journal) (other : .placement ∉ kinds) :
    Places id place hosts run after where
  toDisplaces := h.toDisplaces.after_undisturbed undisturbed (quiet.displacements_eq other)
  hosted := undisturbed.hosted h.hosted
  announced := h.announced.trans (by rw [quiet.hosts_eq other])

/-- The main world may be placed from a companion on, after that was noted. -/
lemma Places.into {i : Nat} {companion : StarId} {name main : String} {star : Star}
    {c : StarSystem} (h : Places companion place hosts mid after)
    (held : run.scene.slot? id i = some (.star companion name star))
    (found : run.scene.star? companion = some c) (undisturbed : run.scene.Undisturbed mid.scene)
    {kinds : List Category} (quiet : Journal.Adds kinds
      (run.journal ++ [.diagnosed (orbitsCompanion main c.name i)]) mid.journal)
    (other : .placement ∉ kinds) : Places id place (c.name :: hosts) run after where
  toDisplaces := by
    refine h.toDisplaces.after_undisturbed undisturbed ((quiet.displacements_eq other).trans ?_)
    rw [Journal.displacements_append]
    exact List.append_nil _
  hosted := .into held found (undisturbed.hosted h.hosted)
  announced := by
    rw [h.announced, quiet.hosts_eq other, Journal.hosts_append, List.append_assoc]
    rfl

/-- Assigning the main world to a star. -/
@[simp] lemma yields_assign {Q : Unit → Run σ Atlas → Prop} :
    (assign id : Gen σ Atlas Unit).Yields run Q ↔
      Q () { run with scene := run.scene.assign id } := yields_change

/-- Placing a body by force ends only if the chart allows it. -/
lemma yields_force {body : Slot} {orbit : Int} {Q : Slot → Run σ Atlas → Prop} :
    (force id body orbit : Gen σ Atlas Slot).Yields run Q ↔ ∀ previous a,
      run.scene.force id body orbit = .ok (previous, a) → Q previous { run with scene := a } := by
  simp only [force, yields_bind, yields_scene, yields_ofExcept, Prod.forall, yields_change,
    yields_pure]

variable [RandomSource σ]

/-- Surveying the main world leaves the chart undisturbed, and notes nothing. -/
lemma undisturbed_surveyMain (star : Star) :
    (surveyMain star : Gen σ Atlas Unit).Within [] Atlas.Undisturbed Fault.Timely :=
  within_surveyMain (refl_of Atlas.Undisturbed) (fun _ _ => Atlas.undisturbed_main rfl) star

/-- Seating the main world displaces what the slot held.

**Proof sketch.** Before the slot is overwritten, the main world gets a new position only; the note
is written by what the slot held and the name of the main world, and the survey that follows leaves
the chart undisturbed. -/
lemma places_seat (orbit : Int) : (seat id orbit : Gen σ Atlas Unit).Yields run fun _ after =>
    ∃ place, Places id place [] run after := by
  rw [seat, yields_bind, yields_star]
  intro s found
  rw [yields_bind, yields_changeMain, yields_bind, yields_force]
  intro previous a taken
  obtain ⟨i, t, rfl, found', held, rfl⟩ := Atlas.of_force_main_ok taken
  have foundT : run.scene.star? id = some t := found'
  have displaced : run.scene.displaced (some (id, i)) =
      (previous.bodyName? run.scene.main.name).toList := by
    rw [Atlas.displaced, Atlas.slot?_eq foundT, held, Option.bind_some]
  -- whatever is noted about the seat, the survey comes last
  have surveyed : ∀ (dice : Dice σ) (journal : Journal) (w : World),
      journal.displacements = run.journal.displacements ++
        (previous.bodyName? run.scene.main.name).toList.map (fun (body : String) => .text body) →
      journal.hosts = run.journal.hosts →
      (surveyMain s.star).Yields ⟨dice, journal,
        { run.scene.setStar id { t with slots := t.slots.set i .main } with main := w }⟩
        fun _ after => ∃ place, Places id place [] run after := by
    intro dice journal w noted announced
    refine ((undisturbed_surveyMain s.star).yields _).mono ?_
    rintro _ after ⟨quiet, undisturbed⟩
    refine ⟨some (id, i), Displaces.before_kept ⟨?_, ?_, ?_⟩ undisturbed.keeps
      (quiet.displacements_eq List.not_mem_nil), .slot, ?_⟩
    · exact trans_of (Atlas.Keeps _) (Atlas.keeps_seated foundT i) (Atlas.keeps_main _ w)
    · intro _ _ here
      cases here
      exact Atlas.slot?_seated foundT held w
    · rw [noted, displaced]
    · rw [quiet.hosts_eq List.not_mem_nil, announced]
      exact (List.append_nil _).symm
  rw [yields_bind, yields_main]
  dsimp only [Atlas.setStar]
  cases named : previous.bodyName? run.scene.main.name with
  | none =>
    rw [named] at surveyed
    exact surveyed _ _ _ (List.append_nil _).symm rfl
  | some body =>
    rw [named] at surveyed
    rw [yields_bind, yields_diagnose]
    refine surveyed _ _ _ ?_ ?_
    · rw [Journal.displacements_append, Journal.displacements_diagnosed]
      rfl
    · rw [Journal.hosts_append]
      exact List.append_nil _

/-- So does seating it on an orbit picked at random. -/
lemma places_seatAnywhere : (seatAnywhere id : Gen σ Atlas Unit).Yields run fun _ after =>
    ∃ place, Places id place [] run after := by
  have rolled : ∀ roll : Roll σ Int, (do seat id (← Gen.roll roll) : Gen σ Atlas Unit).Yields run
      fun _ after => ∃ place, Places id place [] run after := by
    intro roll
    rw [yields_bind, yields_roll]
    intro orbit dice _
    refine (places_seat orbit).mono ?_
    rintro _ after ⟨place, places⟩
    exact ⟨place, places.after_undisturbed (refl_of Atlas.Undisturbed run.scene)
      (.refl [] run.journal) List.not_mem_nil⟩
  rw [seatAnywhere, yields_bind, yields_star]
  intro s found
  split
  · exact rolled _
  · exact rolled _

/-- Making the main world a moon displaces nothing, and the gas giant is its host.

**Proof sketch.** The steps are followed one by one. The search for an orbit and the survey leave
all slots alone, and what they record is no note of a host. The one slot that changes holds the same
gas giant with one more moon, so that nothing was displaced there, and the note at the end names
this giant. -/
lemma places_seatAsMoon {i : Nat} {s : StarSystem} {g : GasGiant}
    (found : run.scene.star? id = some s) (held : s.slots[i]? = some (.giant g)) (limit : Int) :
    (seatAsMoon id i g limit : Gen σ Atlas Unit).Yields run fun _ after =>
      Places id none [g.name] run after := by
  rw [seatAsMoon, yields_bind, yields_star]
  intro t found'
  obtain rfl := Option.eq_some_unique found found'
  rw [yields_bind, yields_changeMain, yields_bind, yields_main, yields_bind]
  refine ((Satellite.within_findOrbit (R := Eq) _ _ _ limit).yields _).mono ?_
  rintro orbit ⟨dice, journal, _⟩ ⟨quiet, rfl⟩
  rw [yields_bind, yields_changeMain, yields_bind, yields_change, yields_bind]
  refine ((undisturbed_surveyMain s.star).yields _).mono ?_
  rintro _ after ⟨quiet', undisturbed⟩
  rw [yields_bind, yields_main, yields_diagnose]
  set joined : Slot := .giant { g with satellites := g.satellites ++ [.main] }
  have seated : run.scene.modifyStar id (fun s => s.setSlot i joined) =
      run.scene.setStar id (s.setSlot i joined) := Atlas.modifyStar_eq found _
  have kept : run.scene.Keeps none (run.scene.setStar id (s.setSlot i joined)) :=
    Atlas.keeps_setStar found (StarSystem.keeps_set held .giant)
  have before : run.scene.slot? id i = some (.giant g) := (Atlas.slot?_eq found i).trans held
  have taken : (run.scene.modifyStar id fun s => s.setSlot i joined).slot? id i = some joined := by
    rw [seated, Atlas.slot?_eq (Atlas.star?_setStar_self found _)]
    exact List.getElem?_set_self (List.getElem?_eq_some_iff.mp held).1
  have hosted : after.scene.slot? id i = some joined := (undisturbed.slot id i).trans taken
  refine ⟨Displaces.before_kept ⟨?_, ?_, ?_⟩ undisturbed.keeps ?_, .moon before hosted, ?_⟩
  · exact trans_of (Atlas.Keeps none) (seated ▸ kept) (Atlas.keeps_main _ _)
  · intro _ _ here
    cases here
  · exact (quiet.displacements_eq (by decide)).trans (List.append_nil _).symm
  · rw [Journal.displacements_append, quiet'.displacements_eq List.not_mem_nil]
    exact List.append_nil _
  · rw [Journal.hosts_append, quiet'.hosts_eq List.not_mem_nil]
    exact congrArg (· ++ _) (quiet.hosts_eq (by decide))

/-! ## The search for a seat -/

/-- Looking for the orbit to aim at around a star finds its target, and notes no placement.

**Proof sketch.** The search for it is followed twice: once for the star that it looks up, and once
for what it comes to at that star, which is known from how it ends. -/
lemma yields_habitableTarget : (habitableTarget id : Gen σ Atlas Int).Yields run
    fun target after => ∃ s zones, run.scene.star? id = some s ∧ s.star.zones = .ok zones ∧
      target = s.target zones ∧ after.scene = run.scene ∧
        Journal.Adds [.zone] run.journal after.journal := by
  intro target after ended
  have known : (habitableTarget id : Gen σ Atlas Int).Yields run fun _ _ =>
      ∃ s zones, run.scene.star? id = some s ∧ s.star.zones = .ok zones := by
    rw [habitableTarget, yields_bind, yields_star]
    intro s found
    rw [yields_bind, yields_ofExcept]
    exact fun zones zoned _ _ _ => ⟨s, zones, found, zoned⟩
  obtain ⟨s, zones, found, zoned⟩ := known target after ended
  have aimed : (habitableTarget id : Gen σ Atlas Int).Ends run fun target _ =>
      target = s.target zones := (ends_habitableTarget found zoned).mpr rfl
  have moves := (within_habitableTarget (R := Eq) id).moves ended
  exact ⟨s, zones, found, zoned, aimed.of_ok ended, moves.scene.symm, moves.journal⟩

/-- The search for a seat displaces one body at most, and notes it and the hosts.

**Proof sketch.** By induction on the fuel.  Going on around a companion notes it, assigns the main
world to it and leaves the chart undisturbed; wherever the search ends, the main world is seated or
becomes a moon.  The orbit that it looks at is never counted from the outermost one, since a star
without orbits has no slot to look at. -/
lemma places_descend (limit : Int) (fuel : Nat) {target : Int} (fitted : run.scene.Fitted)
    (aim : ∀ s, run.scene.star? id = some s → 0 ≤ target ∨ s.maxOrbits ≤ 0) :
    (descend limit fuel id target : Gen σ Atlas Unit).Yields run fun _ after =>
      ∃ place hosts, Places id place hosts run after := by
  induction fuel generalizing id run target with
  | zero => exact yields_throw
  | succ fuel ih =>
    rw [descend, yields_bind, yields_star]
    intro s found
    rw [yields_bind, yields_ofExcept]
    intro content answered
    obtain ⟨i, rfl, held⟩ := StarSystem.held_of_slot (fitted found) (aim s found) answered
    have seated : (seat id i : Gen σ Atlas Unit).Yields run fun _ after =>
        ∃ place hosts, Places id place hosts run after := by
      refine (places_seat i).mono ?_
      rintro _ after ⟨place, places⟩
      exact ⟨place, [], places⟩
    cases content with
    | star companion name star =>
      dsimp only
      rw [yields_bind, yields_star]
      intro c foundC
      split
      · rw [yields_bind, yields_diagnose]
        refine places_seatAnywhere.mono ?_
        rintro _ after ⟨place, places⟩
        have quiet : Journal.Adds [.zone] run.journal
            (run.journal ++ [.diagnosed (companionWithoutOrbits c i)]) :=
          Journal.adds_diagnosed List.mem_cons_self run.journal
        exact ⟨place, [], places.after_undisturbed (refl_of Atlas.Undisturbed run.scene) quiet
          (by decide)⟩
      · rw [yields_bind, yields_main, yields_bind, yields_diagnose, yields_bind, yields_assign,
          yields_bind]
        refine yields_habitableTarget.mono ?_
        rintro next ⟨dice, journal, _⟩ ⟨c', zones, foundC', -, rfl, rfl, quiet⟩
        have undisturbed := run.scene.undisturbed_assign companion
        have searched : (descend limit fuel companion (c'.target zones)).Yields
            ⟨dice, journal, run.scene.assign companion⟩ fun _ after => ∃ place hosts,
              Places companion place hosts ⟨dice, journal, run.scene.assign companion⟩ after :=
          ih (fitted.of_keeps undisturbed.keeps) fun _ known =>
            Option.eq_some_unique foundC' known ▸ c'.target_nonneg_or zones
        refine searched.mono ?_
        rintro _ after ⟨place, hosts, places⟩
        exact ⟨place, c.name :: hosts, places.into ((Atlas.slot?_eq found i).trans held) foundC
          undisturbed quiet (by decide)⟩
    | giant g => exact (places_seatAsMoon found held limit).mono fun _ _ h => ⟨none, [g.name], h⟩
    | undecided => exact seated
    | empty => exact seated
    | world => exact seated
    | main => exact seated

/-- Placing the main world displaces one body at most, and notes it and the hosts.

**Proof sketch.** Entering the phase, marking the main world and assigning it to the star leave all
slots alone. After that the main world is sent either on the search for a habitable seat, which is
known to displace one body at most, or to any orbit of the star. The search for an orbit to aim at
changes nothing and records nothing about hosts. -/
theorem places_placeMain (limit : Int) (fitted : run.scene.Fitted) :
    (placeMain id limit : Gen σ Atlas Unit).Yields run fun _ after =>
      ∃ place hosts, Places id place hosts run after := by
  rw [placeMain, yields_bind, yields_onStar]
  intro s found
  rw [enter, yields_attempt]
  intro t entered
  obtain rfl := StarSystem.of_enter_ok entered
  rw [yields_bind, yields_changeMain, yields_bind, yields_assign, yields_bind, yields_main]
  set ready := (readied run.scene id s).assign id
  have undisturbed : run.scene.Undisturbed ready := by
    have entered : run.scene.Undisturbed
        (run.scene.setStar id { s with phase := some .mainWorld }) :=
      Atlas.undisturbed_setStar found ⟨rfl, rfl, rfl, rfl, rfl, rfl, rfl⟩ rfl
    have marked := trans_of Atlas.Undisturbed entered
      (Atlas.undisturbed_main (w := { run.scene.main with isMain := true }) rfl)
    exact trans_of Atlas.Undisturbed marked (Atlas.undisturbed_assign _ id)
  have fitted' : ready.Fitted := fitted.of_keeps undisturbed.keeps
  split
  · rw [yields_bind]
    refine yields_habitableTarget.mono ?_
    rintro _ ⟨dice, journal, scene⟩ ⟨r, zones, foundR, -, rfl, same, quiet⟩
    obtain rfl : scene = ready := same
    rw [yields_bind, yields_scene]
    have searched : (descend limit ready.stars.length id (r.target zones)).Yields
        ⟨dice, journal, ready⟩ fun _ after =>
          ∃ place hosts, Places id place hosts ⟨dice, journal, ready⟩ after :=
      places_descend limit _ fitted' fun _ known =>
        Option.eq_some_unique foundR known ▸ r.target_nonneg_or zones
    refine searched.mono ?_
    rintro _ after ⟨place, hosts, places⟩
    exact ⟨place, hosts, places.after_undisturbed undisturbed quiet (by decide)⟩
  · refine places_seatAnywhere.mono ?_
    rintro _ after ⟨place, places⟩
    exact ⟨place, [], places.after_undisturbed undisturbed (.refl [] run.journal)
      List.not_mem_nil⟩

end Population

end Starchart
