import Starchart.Proofs.Seat

/-!
# The phases of one star

A star enters its phases in their order, each one once.  Before the main world is seated, a star gets
empty orbits, gas giants and belts; afterwards it gets worlds for all other orbits, and its bodies
get satellites.  No phase fails, and other stars stay as they are.

## Main definitions

* `Starchart.Atlas.Advances` — steps that take one star to a phase.
* `Starchart.Population.seed`, `Starchart.Population.complete` — the phases before and after the main
  world is seated.

## Main results

* `Starchart.Population.ends_seed`, `Starchart.Population.ends_complete` — these phases do not fail.
* `Starchart.StarSystem.Finished` — what they make of a star.
-/

set_option autoImplicit false

namespace Starchart

/-- A star that went through all phases: nothing is undecided about its orbits. -/
structure StarSystem.Finished (s : StarSystem) : Prop where
  phase : s.phase = some .companions
  decided : ∀ i : Nat, s.slots[i]? ≠ some .undecided

namespace Atlas

variable {σ : Type} [RandomSource σ] {limit : Int} {id : StarId} {phase phase' : Phase}
  {a b c : Atlas} {s t : StarSystem}

/-! ## Advancing to a phase -/

/-- Steps that take star `id` to a phase and leave the other stars alone. They compose, so that the
phases of a star follow one another to the last. -/
structure Advances (σ : Type) [RandomSource σ] (limit : Int) (id : StarId) (phase : Phase)
    (a b : Atlas) : Prop where
  reaches : Reaches σ limit a b
  star : ∃ t, b.star? id = some t ∧ t.phase = some phase
  others : ∀ other, other ≠ id → b.star? other = a.star? other

/-- A star advances from phase to phase. -/
lemma Advances.trans (h : Advances σ limit id phase a b) (h' : Advances σ limit id phase' b c) :
    Advances σ limit id phase' a c where
  reaches := h.reaches.trans h'.reaches
  star := h'.star
  others other ne := (h'.others other ne).trans (h.others other ne)

/-- A star that is in a phase advances to it without a step. -/
lemma Advances.refl (found : a.star? id = some s) (reached : s.phase = some phase) :
    Advances σ limit id phase a a where
  reaches := .refl
  star := ⟨s, found, reached⟩
  others _ _ := rfl

/-- A star that advanced to a phase is alike the one before. -/
lemma Advances.exists_star (h : Advances σ limit id phase a b) {seat : Option (StarId × Nat)}
    (sound : a.Sound σ seat) (found : a.star? id = some s) :
    ∃ t, b.star? id = some t ∧ s.Alike t ∧ t.phase = some phase := by
  obtain ⟨t, after, reached⟩ := h.star
  obtain ⟨t', after', alike, -⟩ := h.reaches.star sound found
  obtain rfl := Option.eq_some_unique after after'
  exact ⟨t, after, alike, reached⟩

/-- Decisions about the slots of a star are steps of the chart. -/
lemma reaches_setStar (found : a.star? id = some s) (h : StarSystem.Decisions σ a.main s t) :
    Reaches σ limit a (a.setStar id t) := by
  induction h with
  | refl => rw [setStar_self found]
  | @tail mid last steps step ih =>
    have found' : (a.setStar id mid).star? id = some mid := star?_setStar_self found mid
    have grow : Grow σ limit (a.setStar id mid) ((a.setStar id mid).setStar id last) :=
      .decide found' step
    rw [setStar_setStar] at grow
    exact ih.tail grow

/-- A star that enters a phase and makes decisions advances to it. -/
lemma advances_setStar (found : a.star? id = some s) (may : phase.mayFollow s.phase = true)
    (h : StarSystem.Decisions σ a.main { s with phase := some phase } t) :
    Advances σ limit id phase a (a.setStar id t) where
  reaches := by
    have found' := star?_setStar_self found { s with phase := some phase }
    have steps : Reaches σ limit (a.setStar id { s with phase := some phase })
        ((a.setStar id { s with phase := some phase }).setStar id t) := reaches_setStar found' h
    rw [setStar_setStar] at steps
    exact .head (.enter found may) steps
  star := by
    refine ⟨t, star?_setStar_self found t, ?_⟩
    rw [h.frame]
  others other ne := star?_setStar_of_ne ne t

/-- Changing the body in a slot changes the main world alone, or the slots of one star. -/
lemma setHost_cases (found : a.star? id = some s) (i : Nat) (host : Host) :
    (∃ w, a.setHost id i host = { a with main := w }) ∨
      ∃ slots, a.setHost id i host = a.setStar id { s with slots := slots } := by
  unfold setHost
  split
  · exact .inl ⟨_, rfl⟩
  · exact .inr ⟨_, modifyStar_eq found _⟩
  · exact .inr ⟨_, modifyStar_eq found _⟩

/-- Furnishing a body with satellites is a step within that phase of its star. -/
lemma advances_setHost {i : Nat} {zones : Zones} {host after : Host} (found : a.star? id = some s)
    (reached : s.phase = some .satellites) (zoned : s.star.zones = .ok zones)
    (hosted : a.host? id i = some host)
    (led : (Population.furnish zones a.main s limit i : Gen σ Host Unit).CanLead host after) :
    Advances σ limit id .satellites a (a.setHost id i after) where
  reaches := .single (.furnish found reached zoned hosted led)
  star := by
    rcases setHost_cases found i after with ⟨w, heq⟩ | ⟨slots, heq⟩
    · exact ⟨s, by rw [heq]; exact found, reached⟩
    · refine ⟨{ s with slots := slots }, ?_, reached⟩
      rw [heq]
      exact star?_setStar_self found _
  others other ne := by
    rcases setHost_cases found i after with ⟨w, heq⟩ | ⟨slots, heq⟩
    · rw [heq]
      rfl
    · rw [heq]
      exact star?_setStar_of_ne ne _

end Atlas

namespace Population

variable {σ : Type} [RandomSource σ] {limit : Int} {id : StarId} {phase : Phase}
  {seat : Option (StarId × Nat)} {run : Run σ Atlas} {s : StarSystem}

open Atlas (Advances)

/-- A phase of one star that makes decisions advances the star. -/
lemma ends_phase {α : Type} {x : Gen σ StarSystem α} (limit : Int) (found : run.scene.star? id = some s)
    (may : phase.mayFollow s.phase = true)
    (spec : x.Ends ⟨run.dice, run.journal, s⟩ fun _ after =>
      StarSystem.Decisions σ run.scene.main { s with phase := some phase } after.scene) :
    (Gen.onStar id x).Ends run fun _ after =>
      Advances σ limit id phase run.scene after.scene := by
  rw [Gen.ends_onStar found]
  exact spec.mono fun _ inner decisions => Atlas.advances_setStar found may decisions

/-! ## Before the main world -/

/-- The phases of a star before the main world is seated. -/
def seed (id : StarId) : Gen σ Atlas Unit := do
  let _ ← Gen.onStar id seedEmpties
  let giants ← Gen.onStar id (seedGiants (← Gen.main).name)
  let _ ← Gen.onStar id (seedBelts (← Gen.main) giants)

/-- Seeding a star that is in no phase yet takes it to its belts.

**Proof sketch.** Three phases in a row. Each of them may be entered because the star was left in
the one before, and starts from a chart that is sound because the earlier phases keep it so. -/
theorem ends_seed (limit : Int) (sound : run.scene.Sound σ seat)
    (found : run.scene.star? id = some s) (start : s.phase = none) :
    (seed id).Ends run fun _ after => Advances σ limit id .planetoids run.scene after.scene := by
  have may : Phase.emptySeed.mayFollow s.phase = true := by rw [start]; rfl
  rw [seed, Gen.ends_bind]
  refine Gen.Ends.mono (ends_phase limit found may
    (ends_seedEmpties run.scene.main may)) fun _ mid empties => ?_
  have sound₁ := empties.reaches.sound sound
  obtain ⟨t, found₁, reached₁⟩ := empties.star
  have may₁ : Phase.gasGiants.mayFollow t.phase = true := by rw [reached₁]; rfl
  rw [Gen.ends_bind, Gen.ends_main, Gen.ends_bind]
  refine Gen.Ends.mono (ends_phase limit found₁ may₁ (ends_seedGiants mid.scene.main _
    (sound₁.stars found₁) may₁)) fun count mid giants => ?_
  have sound₂ := giants.reaches.sound sound₁
  obtain ⟨u, found₂, reached₂⟩ := giants.star
  have may₂ : Phase.planetoids.mayFollow u.phase = true := by rw [reached₂]; rfl
  rw [Gen.ends_bind, Gen.ends_main, Gen.ends_bind]
  refine Gen.Ends.mono (ends_phase limit found₂ may₂ (ends_seedBelts mid.scene.main count
    (sound₂.stars found₂).toRegular may₂)) fun _ after belts => ?_
  exact (empties.trans giants).trans belts

/-! ## After the main world -/

/-- Giving the body on one orbit its satellites does not fail and leaves the star in its phase.

**Proof sketch.** Where no body can be furnished nothing happens. Otherwise the body is the world or
giant of that slot, which has a size, so that its satellites are rolled without fail; nothing else
changes. -/
lemma ends_addMoonsAt {zones : Zones} (sound : run.scene.Sound σ seat)
    (found : run.scene.star? id = some s) (reached : s.phase = some .satellites)
    (zoned : s.star.zones = .ok zones) (limit : Int) (i : Nat) :
    (addMoonsAt id zones limit i : Gen σ Atlas Unit).Ends run fun _ after =>
      Advances σ limit id .satellites run.scene after.scene := by
  rw [addMoonsAt, Gen.ends_bind, Gen.ends_star found, Gen.ends_bind, Gen.ends_main, Gen.onHost,
    Gen.ends_bind, Gen.ends_scene]
  split
  · exact .refl found reached
  · rename_i host hosted
    rw [Gen.ends_onPart]
    obtain ⟨lt, sized⟩ := sound.isSized found hosted
    have furnished : (furnish zones run.scene.main s limit i).Ends
        ⟨run.dice, run.journal, host⟩ fun _ after =>
          host.Furnished σ run.scene.main s.star after.scene :=
      ends_furnish (sound.stars found).classified zoned limit lt sized
    refine furnished.canLead.mono fun _ inner ⟨_, led⟩ => ?_
    exact Atlas.advances_setHost found reached zoned hosted led

/-- Giving all bodies of a star satellites takes it to that phase.

**Proof sketch.** Entering the phase decides nothing. Then the bodies are furnished one after the
other, while the chart stays sound and the star in this phase, in which furnishing is allowed. -/
lemma ends_addMoons (limit : Int) (sound : run.scene.Sound σ seat)
    (found : run.scene.star? id = some s) (may : Phase.satellites.mayFollow s.phase = true) :
    (addMoons id limit : Gen σ Atlas Unit).Ends run fun _ after =>
      Advances σ limit id .satellites run.scene after.scene := by
  obtain ⟨zones, zoned⟩ := (sound.stars found).classified.exists_zones
  rw [addMoons, Gen.ends_bind]
  have entering : (enter .satellites : Gen σ StarSystem Unit).Ends ⟨run.dice, run.journal, s⟩
      fun _ after => StarSystem.Decisions σ run.scene.main { s with phase := some .satellites }
        after.scene := by
    rw [ends_enter may]
  refine Gen.Ends.mono (ends_phase limit found may entering) fun _ mid entered => ?_
  obtain ⟨t, found₁, alike, -⟩ := entered.exists_star sound found
  rw [Gen.ends_bind, Gen.ends_star found₁, Gen.ends_bind,
    Gen.ends_ofExcept (show t.star.zones = .ok zones from alike.star ▸ zoned)]
  -- each body is furnished while the star stays in the phase
  refine Gen.ends_forM (fun i _ last advanced => ?_) entered
  obtain ⟨u, found₂, alike', reached⟩ := advanced.exists_star sound found
  refine Gen.Ends.mono (ends_addMoonsAt (advanced.reaches.sound sound) found₂ reached
    (alike'.star ▸ zoned) limit i) fun _ after furnished => ?_
  exact advanced.trans furnished

/-- The phases of a star after the main world is seated. -/
def complete (limit : Int) (id : StarId) : Gen σ Atlas Unit := do
  let _ ← Gen.onStar id (fill (← Gen.main))
  addMoons id limit
  Gen.onStar id (enter .companions)

/-- Completing a star takes it through its last phase, and nothing about its orbits is left
undecided.

**Proof sketch.** The other worlds are placed, then the bodies get satellites, then the last phase
is entered, each from a sound chart with the star in the phase before. After the first of these no
slot is undecided, and no later one makes any slot so. -/
theorem ends_complete (limit : Int) (sound : run.scene.Sound σ seat)
    (found : run.scene.star? id = some s) (may : Phase.filler.mayFollow s.phase = true) :
    (complete limit id).Ends run fun _ after =>
      Advances σ limit id .companions run.scene after.scene ∧
        ∃ t, after.scene.star? id = some t ∧ t.Finished := by
  rw [complete, Gen.ends_bind, Gen.ends_main, Gen.ends_bind, Gen.ends_onStar found]
  apply Gen.Ends.mono (ends_fill_decisions run.scene.main (sound.stars found) may)
  rintro _ ⟨dice, journal, t⟩ ⟨decisions, decided⟩
  have filled : Advances σ limit id .filler run.scene (run.scene.setStar id t) :=
    Atlas.advances_setStar found may decisions
  have sound₁ := filled.reaches.sound sound
  have found₁ : (run.scene.setStar id t).star? id = some t := Atlas.star?_setStar_self found t
  have reached₁ : t.phase = some .filler := (congrArg StarSystem.phase decisions.frame :)
  have may₁ : Phase.satellites.mayFollow t.phase = true := by rw [reached₁]; rfl
  rw [Gen.ends_bind]
  refine Gen.Ends.mono (ends_addMoons limit sound₁ found₁ may₁) fun _ mid moons => ?_
  obtain ⟨u, found₂, reached₂⟩ := moons.star
  have may₂ : Phase.companions.mayFollow u.phase = true := by rw [reached₂]; rfl
  have entering : (enter .companions : Gen σ StarSystem Unit).Ends ⟨mid.dice, mid.journal, u⟩
      fun _ after => StarSystem.Decisions σ mid.scene.main { u with phase := some .companions }
        after.scene := by
    rw [ends_enter may₂]
  refine Gen.Ends.mono (ends_phase limit found₂ may₂ entering) fun _ after last => ?_
  obtain ⟨v, found₃, reached₃⟩ := last.star
  refine ⟨(filled.trans moons).trans last, v, found₃, reached₃, fun i free => ?_⟩
  -- what is undecided at the end was undecided when the other worlds had been placed
  exact decided i ((moons.trans last).reaches.undecided sound₁ found₁ found₃ free)

/-! ## All phases -/

/-- A star that does not seat the main world is seeded and then completed. -/
lemma populateStar_eq (limit : Int) (id : StarId) :
    (populateStar limit id false : Gen σ Atlas Unit) = (do seed id; complete limit id) := by
  simp only [populateStar, seed, complete, bind_assoc, pure_bind, Bool.false_eq_true, if_false]

/-- The star that seats the main world does so in between. -/
lemma populateStar_primary_eq (limit : Int) (id : StarId) :
    (populateStar limit id true : Gen σ Atlas Unit) =
      (do seed id; placeMain id limit; complete limit id) := by
  simp only [populateStar, seed, complete, bind_assoc, pure_bind, if_true]

/-! ## What the phases do to a chart -/

section Effects

variable {kinds : List Category} {R : Atlas → Atlas → Prop} [IsPreorder Atlas R] {id : StarId}

/-- Seeding a star moves a chart along a relation that admits it, and may record that there was too
little room for its bodies. -/
lemma within_seed (admits : Atlas.Admits id R) :
    (seed id : Gen σ Atlas Unit).Within [.shortfall] R Fault.Any :=
  (within_seedEmpties.onAdmitted admits).bind fun _ => Gen.within_main.bind fun _ =>
    ((within_seedGiants _).onAdmitted admits).bind fun giants => Gen.within_main.bind fun main =>
      ((within_seedBelts main giants).onAdmitted admits).bind fun _ => Gen.within_pure _

/-- So does completing a star, which may record that the search for the orbit of a satellite was
given up. -/
lemma within_complete (admits : Atlas.Admits id R) (limit : Int) :
    (complete limit id : Gen σ Atlas Unit).Within [.orbit] R Fault.Any :=
  Gen.within_main.bind fun main => ((within_fill main).onAdmitted admits).bind fun _ =>
    (within_addMoons admits limit).bind fun _ => (Gen.within_enter _).onAdmitted admits

/-- So do all phases of a star, if placing the main world does where the star seats it. -/
lemma within_populateStar (admits : Atlas.Admits id R) {limit : Int} {primary : Bool}
    (placing : primary = true → (placeMain id limit : Gen σ Atlas Unit).Within kinds R Fault.Any)
    (sub : [.shortfall, .orbit] ⊆ kinds) :
    (populateStar limit id primary : Gen σ Atlas Unit).Within kinds R Fault.Any := by
  have seeded : (seed id : Gen σ Atlas Unit).Within kinds R Fault.Any :=
    (within_seed admits).allow fun _ mem => sub (List.mem_cons.mpr (.inl (List.mem_singleton.mp mem)))
  have completed : (complete limit id : Gen σ Atlas Unit).Within kinds R Fault.Any :=
    (within_complete admits limit).allow fun _ mem => sub (List.mem_cons_of_mem _ mem)
  cases primary with
  | false =>
    rw [populateStar_eq]
    exact seeded.bind fun _ => completed
  | true =>
    rw [populateStar_primary_eq]
    exact seeded.bind fun _ => (placing rfl).bind fun _ => completed

end Effects

end Population

end Starchart
