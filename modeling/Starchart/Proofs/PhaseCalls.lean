import Starchart.Proofs.Ledger

/-!
# Calls that enter phases

The phases of a star are entered by single steps and by whole populations, in any order and any number,
on any stars of a chart.  Each step enters its phase before it does anything else, so a step that comes
too late does nothing.  A call may also fail later on, and then the phases that it entered stay entered.

To tell which phases these are, calls are also run with a ledger in which the chart is noted whenever a
star has entered a phase.  The ledger changes nothing about the calls.

## Main definitions

* `Starchart.Phase.Climbs` — from phase to phase, each of which may follow the last one.
* `Starchart.PhaseStep`, `Starchart.PhaseCall` — single steps, and all calls that enter phases.
* `Starchart.PhaseCall.leavesAll` — the run after calls, with `Starchart.PhaseCall.notedAll` for the run
  with a ledger of the phases that they entered.
* `Starchart.Chronicle.Climbs` — a ledger goes on as the stars climb.

## Main results

* `Starchart.PhaseStep.perform_eq` — every step enters its phase first.
* `Starchart.PhaseCall.plain_notedAll` — the ledger changes nothing about calls.
* `Starchart.PhaseCall.phases_after_calls` — the phases that a star entered rise in rank, and the steps
  that come too late are refused without a trace.
-/

set_option autoImplicit false

namespace Starchart

/-! ## Climbs -/

/-- From one phase of a star to another, through phases each of which may follow the one before. As
phases are in a fixed order, no phase occurs twice on the way. -/
inductive Phase.Climbs : Option Phase → List Phase → Option Phase → Prop where
  | rest (current : Option Phase) : Climbs current [] current
  | next {current last : Option Phase} {p : Phase} {later : List Phase}
      (may : p.mayFollow current = true) (climb : Climbs (some p) later last) :
      Climbs current (p :: later) last

namespace Phase.Climbs

variable {current mid last : Option Phase} {ps qs : List Phase}

/-- Two climbs in a row. -/
lemma trans (h : Climbs current ps mid) (h' : Climbs mid qs last) :
    Climbs current (ps ++ qs) last := by
  induction h with
  | rest => exact h'
  | next may _ ih => exact .next may (ih h')

/-- A climb ends in the last phase entered, if there is one. -/
lemma eq_getLast? (h : Climbs current ps last) : last = (current.toList ++ ps).getLast? := by
  induction h with
  | rest current => cases current <;> rfl
  | @next current last p later _ _ ih =>
    cases current with
    | none => exact ih
    | some first => exact ih.trans (List.getLast?_cons_cons (a := first)).symm

/-- The phases of a climb rise in rank.

**Proof sketch.** By induction on the climb. The phase that comes next is above the current one, and
so are all that follow by the induction hypothesis, as rank is transitive. -/
lemma pairwise (h : Climbs current ps last) :
    (current.toList ++ ps).Pairwise fun p q => p.rank < q.rank := by
  induction h with
  | rest current => cases current <;> simp
  | @next current last p later may _ ih =>
    cases current with
    | none => exact ih
    | some first =>
      have above : first.rank < p.rank := (mayFollow_some p first).mp may
      have rising := List.pairwise_cons.mp ih
      refine List.pairwise_cons.mpr ⟨fun q mem => ?_, ih⟩
      rcases List.mem_cons.mp mem with rfl | mem
      · exact above
      · exact Nat.lt_trans above (rising.1 q mem)

end Phase.Climbs

/-! ## Steps -/

/-- A step that enters one phase. Apart from the bare entry, each of them does the work of its phase
once it has entered it. -/
inductive PhaseStep where
  | enter (phase : Phase)
  | seedEmpties
  | seedGiants
  | seedBelts (giants : Int)
  | placeMain (limit : Int)
  | fill
  | addMoons (limit : Int)

/-- A call that enters phases: a single step or a whole population. Sequences of such calls, in any
order and whether or not they are refused, are what the phases of a star are proved about. -/
inductive PhaseCall where
  | single (step : PhaseStep)
  | populate (limit : Int) (primary : Bool)

namespace Gen

variable {σ α : Type}

/-- A phase of a star: it is entered, and then the work on it is done. -/
def entering (id : StarId) (p : Phase) (work : World → Gen σ Atlas α) : Gen σ Atlas α := do
  let main ← Gen.main
  Gen.onStar id (Population.enter p)
  work main

/-- A phase of a star that is noted in the ledger as soon as it is entered. -/
def noted (id : StarId) (p : Phase) (work : World → Gen σ Atlas α) : Gen σ Chronicle α := do
  let main ← Gen.onChart Gen.main
  Gen.phase id p (Gen.onStar id (Population.enter p))
  Gen.onChart (work main)

end Gen

namespace PhaseStep

open Population

variable {σ : Type} [RandomSource σ]

/-- The phase that a step enters. -/
def phase : PhaseStep → Phase
  | enter p => p
  | seedEmpties => .emptySeed
  | seedGiants => .gasGiants
  | seedBelts _ => .planetoids
  | placeMain _ => .mainWorld
  | fill => .filler
  | addMoons _ => .satellites

/-- What a step does on a star. A step that may not enter its phase is refused there and then, with
nothing done. -/
def perform (id : StarId) : PhaseStep → Gen σ Atlas Unit
  | enter p => Gen.onStar id (Population.enter p)
  | seedEmpties => do let _ ← Gen.onStar id Population.seedEmpties
  | seedGiants => do let _ ← (do Gen.onStar id (Population.seedGiants (← Gen.main).name))
  | seedBelts giants => do
    let _ ← (do Gen.onStar id (Population.seedBelts (← Gen.main) giants))
  | placeMain limit => Population.placeMain id limit
  | fill => do let _ ← (do Gen.onStar id (Population.fill (← Gen.main)))
  | addMoons limit => Population.addMoons id limit

/-- What a step does once it has entered its phase. -/
def work (id : StarId) : PhaseStep → World → Gen σ Atlas Unit
  | enter _, _ => pure ()
  | seedEmpties, _ => do let _ ← Gen.onStar id emptiesWork
  | seedGiants, main => do let _ ← Gen.onStar id (giantsWork main.name)
  | seedBelts giants, main => do let _ ← Gen.onStar id (beltsWork main giants)
  | placeMain limit, _ => mainWork id limit
  | fill, main => do let _ ← Gen.onStar id (fillWork main)
  | addMoons limit, _ => moonsWork id limit

/-- A step that is noted in the ledger as soon as it has entered its phase. -/
def noted (id : StarId) (step : PhaseStep) : Gen σ Chronicle Unit :=
  Gen.noted id step.phase (step.work id)

end PhaseStep

namespace Population

variable {σ : Type} [RandomSource σ]

/-- The phases of a star before the main world is seated, each one noted when it is entered. -/
def notedSeed (id : StarId) : Gen σ Chronicle Unit := do
  let _ ← Gen.noted id .emptySeed fun _ => Gen.onStar id emptiesWork
  let giants ← Gen.noted id .gasGiants fun main => Gen.onStar id (giantsWork main.name)
  let _ ← Gen.noted id .planetoids fun main => Gen.onStar id (beltsWork main giants)

/-- The phases of a star after the main world is seated, each one noted when it is entered. -/
def notedComplete (limit : Int) (id : StarId) : Gen σ Chronicle Unit := do
  let _ ← Gen.noted id .filler fun main => Gen.onStar id (fillWork main)
  Gen.noted id .satellites fun _ => moonsWork id limit
  Gen.noted id .companions fun _ => pure ()

/-- Every phase of one star, each one noted when it is entered. -/
def notedStar (limit : Int) (id : StarId) (primary : Bool) : Gen σ Chronicle Unit := do
  notedSeed id
  if primary then Gen.noted id .mainWorld fun _ => mainWork id limit
  notedComplete limit id

/-- Every phase of a star and then of its companions, each one noted when it is entered. Unlike the
chronicle it also shows the phases of a run that fails midway. -/
def notedFrom (limit : Int) : Nat → StarId → Bool → Gen σ Chronicle Unit
  | 0, id, _ => throw (.endlessDescent id .descent)
  | fuel + 1, id, primary => do
    notedStar limit id primary
    (← Gen.onChart (Gen.star id)).companions.forM fun companion => do
      if Orbit.contact < (← Gen.onChart (Gen.star companion)).orbit then
        notedFrom limit fuel companion false

/-- A star and its companions populated, with each phase noted when it is entered. -/
def noted (limit : Int) (id : StarId) (primary : Bool) : Gen σ Chronicle Unit := do
  notedFrom limit ((← Gen.onChart Gen.scene).stars.length + 1) id primary

end Population

/-! ## Calls -/

namespace PhaseCall

variable {σ : Type} [RandomSource σ]

/-- What a call does on a star. -/
def perform (id : StarId) : PhaseCall → Gen σ Atlas Unit
  | single step => step.perform id
  | populate limit primary => Population.populate limit id primary

/-- A call with each phase noted when it is entered. -/
def noted (id : StarId) : PhaseCall → Gen σ Chronicle Unit
  | single step => step.noted id
  | populate limit primary => Population.noted limit id primary

/-- The run after calls on the given stars, each of which may fail. -/
def leavesAll (calls : List (StarId × PhaseCall)) (run : Run σ Atlas) : Run σ Atlas :=
  calls.foldl (fun run call => (call.2.perform call.1).leaves run) run

/-- The run after calls with each phase noted when it is entered. -/
def notedAll (calls : List (StarId × PhaseCall)) (run : Run σ Chronicle) : Run σ Chronicle :=
  calls.foldl (fun run call => (call.2.noted call.1).leaves run) run

end PhaseCall

/-! ## Entering comes first -/

namespace Population

open Gen

variable {σ : Type} [RandomSource σ]

/-- Seeding empty orbits enters its phase first. -/
lemma seedEmpties_entering (id : StarId) : (onStar id seedEmpties : Gen σ Atlas Nat) =
    entering id .emptySeed fun _ => onStar id emptiesWork :=
  onStar_bind id (enter .emptySeed) fun _ => emptiesWork

/-- So does seeding gas giants. -/
lemma seedGiants_entering (id : StarId) :
    (do onStar id (seedGiants (← main).name) : Gen σ Atlas Int) =
      entering id .gasGiants fun main => onStar id (giantsWork main.name) :=
  congrArg (main >>= ·) <| funext fun w =>
    onStar_bind id (enter .gasGiants) fun _ => giantsWork w.name

/-- So does seeding belts. -/
lemma seedBelts_entering (id : StarId) (giants : Int) :
    (do onStar id (seedBelts (← main) giants) : Gen σ Atlas Int) =
      entering id .planetoids fun main => onStar id (beltsWork main giants) :=
  congrArg (main >>= ·) <| funext fun w =>
    onStar_bind id (enter .planetoids) fun _ => beltsWork w giants

/-- So does filling the other orbits. -/
lemma fill_entering (id : StarId) : (do onStar id (fill (← main)) : Gen σ Atlas Nat) =
    entering id .filler fun main => onStar id (fillWork main) :=
  congrArg (main >>= ·) <| funext fun w => onStar_bind id (enter .filler) fun _ => fillWork w

omit [RandomSource σ] in
/-- So does entering a phase without any work on it. -/
lemma enter_entering (id : StarId) (p : Phase) :
    (onStar id (enter p) : Gen σ Atlas Unit) = entering id p fun _ => pure () := by
  change _ = onStar id (enter p) >>= fun _ => pure ()
  exact (bind_pure _).symm

end Population

namespace PhaseStep

open Population

variable {σ : Type} [RandomSource σ]

/-- **Entering comes first.**  Every step on a star enters its phase before it does anything
else. -/
theorem perform_eq (id : StarId) (step : PhaseStep) :
    (step.perform id : Gen σ Atlas Unit) = Gen.entering id step.phase (step.work id) := by
  -- the answer of a step is dropped after its work
  have dropped : ∀ {α : Type} {p : Phase} {work : World → Gen σ Atlas α} {x : Gen σ Atlas α},
      x = Gen.entering id p work → (do let _ ← x) =
        Gen.entering id p (fun main => (do let _ ← work main)) := by
    rintro α p work _ rfl
    simp only [Gen.entering, bind_assoc]
  cases step with
  | enter p => exact enter_entering id p
  | seedEmpties => exact dropped (seedEmpties_entering id)
  | seedGiants => exact dropped (seedGiants_entering id)
  | seedBelts giants => exact dropped (seedBelts_entering id giants)
  | placeMain limit => rfl
  | fill => exact dropped (fill_entering id)
  | addMoons limit => rfl

end PhaseStep

/-! ## Forgetting the notes -/

namespace Gen

variable {σ α : Type}

/-- A step leaves the same chart without its ledger. -/
lemma Erases.leaves {y : Gen σ Chronicle α} {x : Gen σ Atlas α} (h : y.Erases x)
    (run : Run σ Chronicle) : (y.leaves run).plain = x.leaves run.plain := by
  have same := h run
  simp only [Gen.leaves]
  cases ran : y run <;> rw [ran] at same <;> rw [same]

/-- A noted phase does the same without its note. -/
lemma erases_noted (id : StarId) (p : Phase) (work : World → Gen σ Atlas α) :
    (noted id p work).Erases (entering id p work) :=
  (erases_onChart _).bind fun _ => (erases_phase _ _ _).bind fun _ => erases_onChart _

end Gen

namespace Population

open Gen

variable {σ : Type} [RandomSource σ]

/-- So do the first phases of a star. -/
lemma erases_notedSeed (id : StarId) :
    (notedSeed id : Gen σ Chronicle Unit).Erases (seed id) := by
  rw [seed_eq_phases, seedEmpties_entering, seedGiants_entering]
  refine (erases_noted _ _ _).bind fun _ => (erases_noted _ _ _).bind fun giants => ?_
  rw [seedBelts_entering]
  exact (erases_noted _ _ _).bind fun _ => erases_pure _

/-- So do the last ones. -/
lemma erases_notedComplete (limit : Int) (id : StarId) :
    (notedComplete limit id : Gen σ Chronicle Unit).Erases (complete limit id) := by
  rw [complete_eq_phases, fill_entering, enter_entering id .companions]
  exact (erases_noted _ _ _).bind fun _ =>
    (erases_noted id .satellites fun _ => moonsWork id limit).bind fun _ => erases_noted _ _ _

/-- So do all phases of a star. -/
lemma erases_notedStar (limit : Int) (id : StarId) (primary : Bool) :
    (notedStar limit id primary : Gen σ Chronicle Unit).Erases
      (populateStar limit id primary) := by
  cases primary with
  | false =>
    rw [populateStar_eq]
    exact (erases_notedSeed id).bind fun _ => erases_notedComplete limit id
  | true =>
    rw [populateStar_primary_eq]
    exact (erases_notedSeed id).bind fun _ =>
      (erases_noted id .mainWorld fun _ => mainWork id limit).bind fun _ =>
        erases_notedComplete limit id

/-- So does populating a star and its companions. -/
lemma erases_notedFrom (limit : Int) (fuel : Nat) (id : StarId) (primary : Bool) :
    (notedFrom limit fuel id primary : Gen σ Chronicle Unit).Erases
      (populateFrom limit fuel id primary) := by
  induction fuel generalizing id primary with
  | zero => exact erases_throw _
  | succ fuel ih =>
    refine (erases_notedStar limit id primary).bind fun _ => (erases_onChart _).bind fun s =>
      erases_forM fun companion => (erases_onChart _).bind fun c => ?_
    split
    · exact ih companion false
    · exact erases_pure _

end Population

namespace PhaseCall

open Gen

variable {σ : Type} [RandomSource σ]

/-- So does any call. -/
lemma erases_noted (id : StarId) (call : PhaseCall) :
    (call.noted id : Gen σ Chronicle Unit).Erases (call.perform id) := by
  cases call with
  | single step =>
    rw [perform, PhaseStep.perform_eq]
    exact Gen.erases_noted _ _ _
  | populate limit primary =>
    exact (erases_onChart _).bind fun _ => Population.erases_notedFrom limit _ id primary

/-- **The notes change nothing.**  Apart from the ledger, calls leave the same run whether phases
are noted or not, also where they fail. -/
theorem plain_notedAll (calls : List (StarId × PhaseCall)) (run : Run σ Chronicle) :
    (notedAll calls run).plain = leavesAll calls run.plain := by
  induction calls generalizing run with
  | nil => rfl
  | cons call rest ih =>
    have first := (erases_noted call.1 call.2).leaves run
    exact (ih _).trans (congrArg (leavesAll rest) first)

end PhaseCall

/-! ## The ledger climbs -/

/-- The chart of a milestone shows its star in its phase. -/
def Milestone.Shown (m : Milestone) : Prop :=
  ∃ s, m.chart.star? m.star = some s ∧ s.phase = some m.phase

/-- The phases of one star in a ledger. -/
def Milestone.entered (id : StarId) (ledger : List Milestone) : List Phase :=
  (ledger.filter fun m => m.star == id).map Milestone.phase

/-- The chronicle goes on as its stars climb: phases are noted at the end of the ledger, and each
star climbs through those that are noted of it. -/
def Chronicle.Climbs (c d : Chronicle) : Prop :=
  ∃ later, d.ledger = c.ledger ++ later ∧ (∀ m ∈ later, m.Shown) ∧
    ∀ {id : StarId} {s : StarSystem}, c.chart.star? id = some s →
      ∃ t, d.chart.star? id = some t ∧ Phase.Climbs s.phase (Milestone.entered id later) t.phase

namespace Chronicle

/-- Chronicles climb from step to step. -/
instance isPreorder_climbs : IsPreorder Chronicle Climbs where
  refl c := ⟨[], (List.append_nil _).symm, nofun, fun {_ s} found => ⟨s, found, .rest _⟩⟩
  trans c d e h h' := by
    obtain ⟨first, ledger, shown, climbs⟩ := h
    obtain ⟨second, ledger', shown', climbs'⟩ := h'
    refine ⟨first ++ second, ?_, fun m mem => ?_, fun {id s} found => ?_⟩
    · rw [ledger', ledger, List.append_assoc]
    · exact (List.mem_append.mp mem).elim (shown m) (shown' m)
    · obtain ⟨t, found', climb⟩ := climbs found
      obtain ⟨u, found'', climb'⟩ := climbs' found'
      refine ⟨u, found'', ?_⟩
      simpa only [Milestone.entered, List.filter_append, List.map_append] using climb.trans climb'

/-- A chart whose stars stay in their phases climbs without a note. -/
lemma climbs_of_remains {c : Chronicle} {a : Atlas} (remains : c.chart.Remains a) :
    c.Climbs { c with chart := a } := by
  refine ⟨[], (List.append_nil _).symm, nofun, fun {id s} found => ?_⟩
  obtain ⟨t, found', abides⟩ := remains.star found
  refine ⟨t, found', ?_⟩
  rw [show t.phase = s.phase from abides]
  exact .rest _

/-- A star that enters a phase climbs to it.

**Proof sketch.** The ledger gains the one milestone. At the star itself that is a climb by one
phase, and at any other star it is none, as the milestone is not one of that star. -/
lemma climbs_entered {c : Chronicle} {id : StarId} {s : StarSystem} {p : Phase}
    (found : c.chart.star? id = some s) (may : p.mayFollow s.phase = true) :
    c.Climbs ⟨c.chart.setStar id { s with phase := some p },
      c.ledger ++ [⟨id, p, c.chart.setStar id { s with phase := some p }⟩]⟩ := by
  have found' := Atlas.star?_setStar_self found { s with phase := some p }
  refine ⟨_, rfl, fun m mem => ?_, fun {other u} known => ?_⟩
  · obtain rfl := List.mem_singleton.mp mem
    exact ⟨_, found', rfl⟩
  · by_cases here : other = id
    · subst here
      obtain rfl := Option.eq_some_unique found known
      refine ⟨_, found', ?_⟩
      simpa [Milestone.entered] using Phase.Climbs.next may (.rest (some p))
    · refine ⟨u, (Atlas.star?_setStar_of_ne here _).trans known, ?_⟩
      have others : (id == other) = false := by simpa using Ne.symm here
      simpa [Milestone.entered, others] using Phase.Climbs.rest u.phase

end Chronicle

/-! ## Entering a phase -/

namespace Gen

open Population (enter)

variable {σ α : Type} {kinds : List Category} {id : StarId} {p : Phase} {s : StarSystem}
  {current : Phase}

/-- A phase of a star with a ledger, by what it does without one. -/
lemma phase_apply (id : StarId) (p : Phase) (x : Gen σ Atlas α) (run : Run σ Chronicle) :
    phase id p x run = match x run.plain with
      | .ok a after => .ok a ⟨after.dice, after.journal, after.scene,
          run.scene.ledger ++ [⟨id, p, after.scene⟩]⟩
      | .error e after => .error e ⟨after.dice, after.journal, after.scene, run.scene.ledger⟩ := by
  have here : x ⟨run.dice, run.journal, run.scene.chart⟩ = x run.plain := rfl
  simp only [phase, onChart, onPart, bind, EStateM.bind, here]
  cases x run.plain <;> rfl

variable {run : Run σ Atlas}

/-- A star enters a phase that may follow its own. -/
lemma enter_ok (found : run.scene.star? id = some s) (may : p.mayFollow s.phase = true) :
    onStar id (enter p) run =
      .ok () { run with scene := run.scene.setStar id { s with phase := some p } } := by
  rw [onStar_apply found, enter, attempt_apply, StarSystem.enter, if_pos may]

/-- A star does not enter a phase that comes too late, and nothing changes. -/
lemma enter_refused (found : run.scene.star? id = some s) (reached : s.phase = some current)
    (late : p.rank ≤ current.rank) :
    onStar id (enter p) run = .error (.phaseOrder p current) run := by
  have refused : ¬ p.mayFollow s.phase = true := by
    rw [reached, Phase.mayFollow_some]
    omega
  rw [onStar_apply found, enter, attempt_apply, StarSystem.enter, if_neg refused, reached]
  simp only [Option.getD_some, Atlas.setStar_self found]

/-- A phase that may follow comes down to the work on it. -/
lemma entering_ok {work : World → Gen σ Atlas α} (found : run.scene.star? id = some s)
    (may : p.mayFollow s.phase = true) : entering id p work run = work run.scene.main
      { run with scene := run.scene.setStar id { s with phase := some p } } := by
  rw [entering, main_bind, bind_ok (enter_ok found may)]

/-- A phase that comes too late is refused, and nothing changes. -/
lemma entering_refused {work : World → Gen σ Atlas α} (found : run.scene.star? id = some s)
    (reached : s.phase = some current) (late : p.rank ≤ current.rank) :
    entering id p work run = .error (.phaseOrder p current) run := by
  rw [entering, main_bind, bind_error (enter_refused found reached late)]

/-! ## Every call climbs -/

open Fault

/-- A step on the chart that leaves the phases alone climbs. -/
lemma Within.onChart {x : Gen σ Atlas α} {kinds : List Category} {F : Fault → Prop}
    (h : x.Within kinds Atlas.Remains F) : (Gen.onChart x).Within kinds Chronicle.Climbs F :=
  within_onPart h Chronicle.climbs_of_remains

/-- Entering a phase climbs.

**Proof sketch.** If the phase may be entered, the star climbs to it and the chart is noted.
Otherwise the star is unknown or in a phase of the same or a higher rank; the step is refused then,
and neither the chart nor the ledger changes. -/
lemma within_entered (id : StarId) (p : Phase) :
    (phase id p (onStar id (enter p)) : Gen σ Chronicle Unit).Within kinds Chronicle.Climbs Any := by
  intro run
  rw [phase_apply]
  have stays : run.Moves kinds Chronicle.Climbs run := refl_of (Run.Moves kinds Chronicle.Climbs) run
  cases found : run.plain.scene.star? id with
  | none =>
    rw [onStar_error found]
    exact ⟨stays, trivial⟩
  | some s =>
    by_cases may : p.mayFollow s.phase = true
    · rw [enter_ok found may]
      exact ⟨stays.journal, Chronicle.climbs_entered found may⟩
    · cases reached : s.phase with
      | none => exact absurd (reached ▸ Phase.mayFollow_none p) may
      | some current =>
        have late : p.rank ≤ current.rank := by
          rw [reached, Phase.mayFollow_some] at may
          omega
        rw [enter_refused found reached late]
        exact ⟨stays, trivial⟩

/-- So does a phase with work on it that leaves the phases alone. -/
lemma within_noted (id : StarId) (p : Phase) {work : World → Gen σ Atlas α}
    (h : ∀ w, (work w).Within kinds Atlas.Remains Timely) :
    (noted id p work).Within kinds Chronicle.Climbs Any :=
  (Within.onChart within_main).bind fun w => (within_entered id p).bind fun _ =>
    (Within.onChart (h w)).any

end Gen

namespace Population

open Gen Fault

variable {σ : Type} [RandomSource σ]

omit [RandomSource σ] in
/-- Work on a star that leaves its phase alone. -/
lemma within_starWork {α : Type} {kinds : List Category} {x : Gen σ StarSystem α} (id : StarId)
    (h : x.Within kinds StarSystem.Gains Timely) :
    (Gen.onStar id x : Gen σ Atlas α).Within kinds Atlas.Remains Timely :=
  h.onStar nofun fun found gains => Atlas.remains_setStar found gains.abides

/-- The first phases of a star climb, and may record that there was too little room for bodies. -/
lemma within_notedSeed (id : StarId) :
    (notedSeed id : Gen σ Chronicle Unit).Within [.shortfall] Chronicle.Climbs Any :=
  (within_noted _ _ fun _ => within_starWork id within_emptiesWork).bind fun _ =>
    (within_noted _ _ fun _ => within_starWork id (within_giantsWork _)).bind fun _ =>
      (within_noted _ _ fun _ => within_starWork id (within_beltsWork _ _)).bind fun _ =>
        within_pure _

/-- So do the last ones, which may record that the search for the orbit of a satellite was given
up. -/
lemma within_notedComplete (limit : Int) (id : StarId) :
    (notedComplete limit id : Gen σ Chronicle Unit).Within [.orbit] Chronicle.Climbs Any :=
  (within_noted _ _ fun _ => within_starWork id (within_fillWork _)).bind fun _ =>
    (within_noted _ _ fun _ => within_moonsWork limit Atlas.remains_setHost).bind fun _ =>
      within_noted _ _ fun _ => within_pure _

/-- So do all phases of a star. -/
lemma within_notedStar (limit : Int) (id : StarId) (primary : Bool) :
    (notedStar limit id primary : Gen σ Chronicle Unit).Within
      Category.populating Chronicle.Climbs Any := by
  have seeded : (notedSeed id : Gen σ Chronicle Unit).Within Category.populating
      Chronicle.Climbs Any := (within_notedSeed id).allow (by decide)
  have completed : (notedComplete limit id : Gen σ Chronicle Unit).Within Category.populating
      Chronicle.Climbs Any := (within_notedComplete limit id).allow (by decide)
  cases primary with
  | false => exact seeded.bind fun _ => completed
  | true =>
    exact seeded.bind fun _ => (within_noted _ _ fun _ =>
      (within_mainWork id limit).allow (by decide)).bind fun _ => completed

/-- So does populating a star and its companions. -/
lemma within_notedFrom (limit : Int) (fuel : Nat) (id : StarId) (primary : Bool) :
    (notedFrom limit fuel id primary : Gen σ Chronicle Unit).Within
      Category.populating Chronicle.Climbs Any := by
  induction fuel generalizing id primary with
  | zero => exact within_throw trivial
  | succ fuel ih =>
    have look : ∀ id, (Gen.onChart (Gen.star id) : Gen σ Chronicle StarSystem).Within
        Category.populating Chronicle.Climbs Any :=
      fun _ => Within.onChart (within_star trivial)
    refine (within_notedStar limit id primary).bind fun _ => (look id).bind fun s =>
      within_forM fun companion => (look companion).bind fun c => ?_
    split
    · exact ih companion false
    · exact within_pure _

/-- Seeding empty orbits on a star that is in a phase is refused, and nothing changes. -/
lemma seed_refused {run : Run σ Atlas} {id : StarId} {s : StarSystem} {current : Phase}
    (found : run.scene.star? id = some s) (reached : s.phase = some current) :
    (seed id : Gen σ Atlas Unit) run = .error (.phaseOrder .emptySeed current) run := by
  rw [seed, seedEmpties_entering]
  exact bind_error (entering_refused found reached (Nat.zero_le _))

/-- So is populating it. -/
lemma populate_refused {run : Run σ Atlas} {id : StarId} {s : StarSystem} {current : Phase}
    (found : run.scene.star? id = some s) (reached : s.phase = some current) (limit : Int)
    (primary : Bool) : populate limit id primary run = .error (.phaseOrder .emptySeed current) run := by
  have phases : populateStar limit id primary run = .error (.phaseOrder .emptySeed current) run := by
    cases primary with
    | false =>
      rw [populateStar_eq]
      exact bind_error (seed_refused found reached)
    | true =>
      rw [populateStar_primary_eq]
      exact bind_error (seed_refused found reached)
  have looked : (Gen.scene : Gen σ Atlas Atlas) run = .ok run.scene run := rfl
  rw [populate, bind_ok looked]
  exact bind_error phases

end Population

namespace PhaseStep

open Gen Fault Population

variable {σ : Type} [RandomSource σ] {id : StarId} {run : Run σ Atlas} {s : StarSystem}
  {step : PhaseStep} {current : Phase}

/-- What a step does once it has entered its phase leaves the phases alone. -/
lemma within_work (id : StarId) (step : PhaseStep) (w : World) :
    (step.work id w : Gen σ Atlas Unit).Within Category.populating Atlas.Remains
      Timely := by
  have starWork : ∀ {α : Type} {kinds : List Category} {x : Gen σ StarSystem α},
      kinds ⊆ Category.populating → x.Within kinds StarSystem.Gains Timely →
      (do let _ ← Gen.onStar id x : Gen σ Atlas Unit).Within
        Category.populating Atlas.Remains Timely := fun sub gains =>
    ((within_starWork id gains).allow sub).bind fun _ => within_pure _
  cases step with
  | enter => exact within_pure _
  | seedEmpties => exact starWork (List.Subset.refl _) within_emptiesWork
  | seedGiants => exact starWork (by decide) (within_giantsWork _)
  | seedBelts => exact starWork (by decide) (within_beltsWork _ _)
  | placeMain => exact (within_mainWork id _).allow (by decide)
  | fill => exact starWork (List.Subset.refl _) (within_fillWork _)
  | addMoons => exact (within_moonsWork _ Atlas.remains_setHost).allow (by decide)

/-- Whether a step is refused because of its phase. -/
def Refused (id : StarId) (step : PhaseStep) (run : Run σ Atlas) : Prop :=
  ∃ next current after, step.perform id run = .error (.phaseOrder next current) after

/-- A step that comes too late is refused, and nothing changes. -/
lemma perform_refused (found : run.scene.star? id = some s) (reached : s.phase = some current)
    (late : step.phase.rank ≤ current.rank) :
    step.perform id run = .error (.phaseOrder step.phase current) run := by
  rw [perform_eq, entering_refused found reached late]

/-- Exactly the steps that come too late are refused.

**Proof sketch.** A step that comes too late is refused as such. If it does not come too late it
enters its phase, and what it does after that may fail, but never because of a phase. -/
lemma refused_iff (found : run.scene.star? id = some s) : step.Refused id run ↔
    ∃ current, s.phase = some current ∧ step.phase.rank ≤ current.rank := by
  constructor
  · rintro ⟨next, current, after, refused⟩
    by_contra early
    have may : step.phase.mayFollow s.phase = true := by
      cases reached : s.phase with
      | none => rfl
      | some current =>
        rw [Phase.mayFollow_some]
        by_contra late
        exact early ⟨current, reached, by omega⟩
    -- the work on a phase fails for other reasons only
    have timely := within_work id step run.scene.main
      { run with scene := run.scene.setStar id { s with phase := some step.phase } }
    rw [perform_eq, entering_ok found may] at refused
    rw [refused] at timely
    exact timely.2 next current rfl
  · rintro ⟨current, reached, late⟩
    exact ⟨_, _, _, perform_refused found reached late⟩

/-- A step that is not refused leaves its star in its phase, also if the work on it fails. -/
lemma leaves_perform (found : run.scene.star? id = some s)
    (may : step.phase.mayFollow s.phase = true) :
    ∃ t, ((step.perform id).leaves run).scene.star? id = some t ∧ t.phase = some step.phase := by
  have worked := (within_work id step run.scene.main).leaves
    { run with scene := run.scene.setStar id { s with phase := some step.phase } }
  have found' := Atlas.star?_setStar_self found { s with phase := some step.phase }
  obtain ⟨t, held, abides⟩ := worked.star found'
  refine ⟨t, ?_, abides⟩
  rw [perform_eq, leaves, entering_ok found may]
  exact held

end PhaseStep

namespace PhaseCall

open Gen Fault

variable {σ : Type} [RandomSource σ]

/-- Every call climbs. -/
lemma within_noted (id : StarId) (call : PhaseCall) :
    (call.noted id : Gen σ Chronicle Unit).Within Category.populating
      Chronicle.Climbs Any := by
  cases call with
  | single step => exact Gen.within_noted _ _ (step.within_work id)
  | populate limit primary =>
    exact (Within.onChart within_scene).bind fun _ => Population.within_notedFrom limit _ id primary

/-- So do calls in a row. -/
lemma climbs_notedAll (calls : List (StarId × PhaseCall)) (run : Run σ Chronicle) :
    run.scene.Climbs (notedAll calls run).scene := by
  induction calls generalizing run with
  | nil => exact refl_of Chronicle.Climbs _
  | cons call rest ih =>
    exact trans_of Chronicle.Climbs ((within_noted call.1 call.2).leaves run) (ih _)

/-- **Phases rise.**  Take any star of any chart, any main world and source of random numbers, and
any calls that enter phases, on this star and others, each of which may fail.  The phases that the
star entered, after the one that it was in, rise in rank, and it is in the last one of them.  After
that a single step leaves the star in its own phase if that ranks above the one that the star is in.
It is refused because of its phase exactly if that does not rank above, and then nothing at all
changes. Neither does anything when a star that is in any phase is populated.

**Proof sketch.** Every step enters its phase before it does anything else, and the work that
follows leaves the phases of all stars alone.  So the ledger of a call climbs, and that of calls in
a row does by induction on them. -/
theorem phases_after_calls (calls : List (StarId × PhaseCall)) {run : Run σ Atlas} {id : StarId}
    {s : StarSystem} (found : run.scene.star? id = some s) : ∃ after ledger t,
      leavesAll calls run = after ∧
      notedAll calls ⟨run.dice, run.journal, ⟨run.scene, []⟩⟩ =
        ⟨after.dice, after.journal, ⟨after.scene, ledger⟩⟩ ∧
      (∀ m ∈ ledger, m.Shown) ∧
      after.scene.star? id = some t ∧
      t.phase = (s.phase.toList ++ Milestone.entered id ledger).getLast? ∧
      (s.phase.toList ++ Milestone.entered id ledger).Pairwise (fun p q => p.rank < q.rank) ∧
      (∀ step : PhaseStep, step.phase.mayFollow t.phase = true →
        ∃ u, ((step.perform id).leaves after).scene.star? id = some u ∧
          u.phase = some step.phase) ∧
      (∀ step : PhaseStep, step.Refused id after ↔
        ∃ current, t.phase = some current ∧ step.phase.rank ≤ current.rank) ∧
      (∀ (step : PhaseStep) (current : Phase), t.phase = some current →
        step.phase.rank ≤ current.rank →
          step.perform id after = .error (.phaseOrder step.phase current) after) ∧
      ∀ (limit : Int) (primary : Bool) (current : Phase), t.phase = some current →
        Population.populate limit id primary after =
          .error (.phaseOrder .emptySeed current) after := by
  set start : Run σ Chronicle := ⟨run.dice, run.journal, ⟨run.scene, []⟩⟩ with begins
  have plain : (notedAll calls start).plain = leavesAll calls run := plain_notedAll calls start
  obtain ⟨ledger, entries, shown, climbs⟩ := climbs_notedAll calls start
  have known : start.scene.chart.star? id = some s := found
  obtain ⟨t, found', climb⟩ := climbs known
  have held : (leavesAll calls run).scene.star? id = some t := by
    rw [← plain]
    exact found'
  refine ⟨leavesAll calls run, ledger, t, rfl, ?_, shown, held, climb.eq_getLast?, climb.pairwise,
    fun step may => PhaseStep.leaves_perform held may, fun step => PhaseStep.refused_iff held,
    fun step current reached late => PhaseStep.perform_refused held reached late,
    fun limit primary current reached => Population.populate_refused held reached limit primary⟩
  have same : (notedAll calls start).scene.ledger = ledger := by
    rw [entries, begins, List.nil_append]
  rw [← plain, ← same]
  rfl

/-- The phases of this star rise: its gas giants are seeded, so that populating it comes too late,
its companion is populated, and later phases are entered. -/
theorem phases_after_calls_regina :
    let run : Run Congruential Atlas := ⟨⟨⟨1⟩, []⟩, [],
      ⟨[.bare "Regina" ⟨.G, 2, .V⟩ Orbit.primary 8, .bare "Asterope" ⟨.M, 3, .V⟩ 5 2], .regina⟩⟩
    let calls : List (StarId × PhaseCall) := [(0, .single .seedGiants), (0, .populate 10 true),
      (1, .populate 10 false), (0, .single (.placeMain 10)), (0, .single (.enter .filler))]
    ∃ after ledger t,
      leavesAll calls run = after ∧
      notedAll calls ⟨run.dice, run.journal, ⟨run.scene, []⟩⟩ =
        ⟨after.dice, after.journal, ⟨after.scene, ledger⟩⟩ ∧
      (∀ m ∈ ledger, m.Shown) ∧
      after.scene.star? 0 = some t ∧
      t.phase = (Milestone.entered 0 ledger).getLast? ∧
      (Milestone.entered 0 ledger).Pairwise (fun p q => p.rank < q.rank) ∧
      (∀ step : PhaseStep, step.phase.mayFollow t.phase = true →
        ∃ u, ((step.perform 0).leaves after).scene.star? 0 = some u ∧
          u.phase = some step.phase) ∧
      (∀ step : PhaseStep, step.Refused 0 after ↔
        ∃ current, t.phase = some current ∧ step.phase.rank ≤ current.rank) ∧
      (∀ (step : PhaseStep) (current : Phase), t.phase = some current →
        step.phase.rank ≤ current.rank →
          step.perform 0 after = .error (.phaseOrder step.phase current) after) ∧
      ∀ (limit : Int) (primary : Bool) (current : Phase), t.phase = some current →
        Population.populate limit 0 primary after =
          .error (.phaseOrder .emptySeed current) after :=
  phases_after_calls _ (s := .bare "Regina" ⟨.G, 2, .V⟩ Orbit.primary 8) rfl

end PhaseCall

end Starchart
