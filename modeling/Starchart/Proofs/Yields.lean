import Starchart.Proofs.Steps

/-!
# Where steps end

A step may fail, be it that the dice run dry or that a chart is not as it should be.  What holds wherever
it ends is passed back along the program text, one step at a time, so that nothing has to be known about
whether it does.

## Main definitions

* `Starchart.Gen.Yields` — what holds after a step, wherever it ends.

## Main results

* `Starchart.Gen.yields_bind` — two steps in a row.
* `Starchart.Gen.yields_roll`, `Starchart.Gen.yields_attempt` — steps that may fail.
* `Starchart.Gen.yields_onPart`, `Starchart.Gen.yields_onStar` — steps on part of a scene.
* `Starchart.Gen.Yields.forM`, `Starchart.Gen.yields_forM` — a step for each member of a list.
-/

set_option autoImplicit false

namespace Starchart.Gen

variable {σ ρ τ : Type} {α β : Type}

/-- Wherever the step ends from `run`, it ends as `Q` tells. Unlike `Ends` it allows for faults; it
is for facts about the runs that end, be the source what it may. -/
def Yields (x : Gen σ ρ α) (run : Run σ ρ) (Q : α → Run σ ρ → Prop) : Prop :=
  ∀ a after, x run = .ok a after → Q a after

section Rules

variable {run : Run σ ρ}

/-- Less may be told about how a step ends. -/
lemma Yields.mono {x : Gen σ ρ α} {P Q : α → Run σ ρ → Prop} (h : x.Yields run P)
    (imp : ∀ a after, P a after → Q a after) : x.Yields run Q :=
  fun a after ended => imp a after (h a after ended)

/-- A step that is known to end. -/
lemma yields_iff {x : Gen σ ρ α} {a : α} {after : Run σ ρ} {Q : α → Run σ ρ → Prop}
    (ended : x run = .ok a after) : x.Yields run Q ↔ Q a after := by
  constructor
  · exact fun h => h a after ended
  · intro h b other ended'
    rw [ended] at ended'
    cases ended'
    exact h

/-- A step that ends well ends as told wherever it does. -/
lemma Ends.yields [RandomSource σ] {x : Gen σ ρ α} {Q : α → Run σ ρ → Prop} (h : x.Ends run Q) :
    x.Yields run Q :=
  fun _ _ ended => h.of_ok ended

/-- A returned value changes nothing. -/
@[simp] lemma yields_pure {a : α} {Q : α → Run σ ρ → Prop} :
    (pure a : Gen σ ρ α).Yields run Q ↔ Q a run := yields_iff rfl

/-- A fault ends nothing. -/
lemma yields_throw {e : Fault} {Q : α → Run σ ρ → Prop} : (throw e : Gen σ ρ α).Yields run Q :=
  fun _ _ ended => nomatch ended

/-- Two steps in a row. -/
@[simp] lemma yields_bind {x : Gen σ ρ α} {f : α → Gen σ ρ β} {Q : β → Run σ ρ → Prop} :
    (x >>= f).Yields run Q ↔ x.Yields run fun a mid => (f a).Yields mid Q := by
  constructor
  · intro h a mid first b after second
    refine h b after ?_
    simp only [bind, EStateM.bind, first, second]
  · intro h b after ended
    obtain ⟨a, mid, first, second⟩ := exists_of_bind_ok ended
    exact h a mid first b after second

/-- Looking at the scene. -/
@[simp] lemma yields_scene {Q : ρ → Run σ ρ → Prop} :
    (scene : Gen σ ρ ρ).Yields run Q ↔ Q run.scene run := yields_iff rfl

/-- Changing the scene. -/
@[simp] lemma yields_change {f : ρ → ρ} {Q : Unit → Run σ ρ → Prop} :
    (change f : Gen σ ρ Unit).Yields run Q ↔ Q () { run with scene := f run.scene } :=
  yields_iff rfl

/-- Adding to the journal. -/
@[simp] lemma yields_record {e : Event} {Q : Unit → Run σ ρ → Prop} :
    (record e : Gen σ ρ Unit).Yields run Q ↔
      Q () { run with journal := run.journal ++ [e] } := yields_iff rfl

/-- Recording a diagnostic. -/
@[simp] lemma yields_diagnose {d : Diagnostic} {Q : Unit → Run σ ρ → Prop} :
    (diagnose d : Gen σ ρ Unit).Yields run Q ↔
      Q () { run with journal := run.journal ++ [.diagnosed d] } :=
  yields_record

/-- A pure reading ends only if it answers, and changes nothing. -/
lemma yields_ofExcept {x : Except Fault α} {Q : α → Run σ ρ → Prop} :
    (liftM x : Gen σ ρ α).Yields run Q ↔ ∀ a, x = .ok a → Q a run := by
  constructor
  · rintro h a rfl
    exact h a run rfl
  · intro h a after ended
    obtain ⟨answered, rfl⟩ := of_ofExcept_ok ended
    exact h a answered

/-- A roll ends only if it answers, and changes nothing but the dice. -/
lemma yields_roll {x : Roll σ α} {Q : α → Run σ ρ → Prop} :
    (roll x : Gen σ ρ α).Yields run Q ↔
      ∀ a dice, x run.dice = .ok a dice → Q a { run with dice := dice } := by
  constructor
  · intro h a dice answered
    refine h a _ ?_
    simp only [roll, answered]
  · intro h a after ended
    unfold roll at ended
    split at ended
    · rename_i b dice answered
      cases ended
      exact h a dice answered
    · cases ended

/-- An operation on the scene that may be refused. -/
lemma yields_attempt {f : ρ → Except Fault ρ} {Q : Unit → Run σ ρ → Prop} :
    (attempt f : Gen σ ρ Unit).Yields run Q ↔
      ∀ after, f run.scene = .ok after → Q () { run with scene := after } := by
  simp only [attempt, yields_bind, yields_scene, yields_ofExcept, yields_change]

/-- A step on part of a scene. -/
@[simp] lemma yields_onPart {view : ρ → τ} {update : τ → ρ → ρ} {x : Gen σ τ α}
    {Q : α → Run σ ρ → Prop} :
    (onPart view update x : Gen σ ρ α).Yields run Q ↔
      x.Yields ⟨run.dice, run.journal, view run.scene⟩ fun a inner =>
        Q a ⟨inner.dice, inner.journal, update inner.scene run.scene⟩ := by
  constructor
  · intro h a inner ended
    refine h a _ ?_
    simp only [onPart, ended]
  · intro h a after ended
    unfold onPart at ended
    split at ended
    · rename_i b inner answered
      cases ended
      exact h a inner answered
    · cases ended

/-- What each step of a loop preserves, the loop preserves. -/
lemma Yields.forM {f : β → Gen σ ρ PUnit} {I : ρ → Prop}
    (kept : ∀ b run, I run.scene → (f b).Yields run fun _ after => I after.scene) (xs : List β)
    {run : Run σ ρ} (held : I run.scene) : (xs.forM f).Yields run fun _ after => I after.scene := by
  induction xs generalizing run with
  | nil => exact yields_pure.mpr held
  | cons b xs ih => exact yields_bind.mpr ((kept b run held).mono fun _ _ held => ih held)

/-- When each member of a list is done something for that it needs, and that is not undone for the
sake of another one, all members have it in the end. -/
lemma yields_forM {f : β → Gen σ ρ PUnit} {P : β → ρ → Prop}
    (done : ∀ b run, (f b).Yields run fun _ after => P b after.scene)
    (kept : ∀ b c run, c ≠ b → P c run.scene → (f b).Yields run fun _ after => P c after.scene)
    (xs : List β) (run : Run σ ρ) : (xs.forM f).Yields run fun _ after =>
      ∀ b ∈ xs, P b after.scene := by
  have keeps (c b : β) (run : Run σ ρ) (held : P c run.scene) :
      (f b).Yields run fun _ after => P c after.scene := by
    by_cases same : c = b
    · exact same ▸ done b run
    · exact kept b c run same held
  induction xs generalizing run with
  | nil => exact yields_pure.mpr fun _ mem => absurd mem List.not_mem_nil
  | cons b xs ih =>
    refine yields_bind.mpr ((done b run).mono fun _ mid first => ?_)
    intro _ after ended c mem
    rcases List.mem_cons.mp mem with rfl | mem
    · exact Yields.forM (keeps c) xs first () after ended
    · exact ih mid () after ended c mem

end Rules

section Charts

variable {run : Run σ Atlas}

/-- Looking at a star. -/
lemma yields_star {id : StarId} {Q : StarSystem → Run σ Atlas → Prop} :
    (star id : Gen σ Atlas StarSystem).Yields run Q ↔
      ∀ s, run.scene.star? id = some s → Q s run := by
  rw [star, yields_bind, yields_scene, yields_ofExcept]
  refine forall_congr' fun s => ⟨fun h found => h (Atlas.star_eq found), fun h answered => h ?_⟩
  unfold Atlas.star at answered
  split at answered
  · cases answered
    assumption
  · cases answered

/-- Looking at the main world. -/
@[simp] lemma yields_main {Q : World → Run σ Atlas → Prop} :
    (main : Gen σ Atlas World).Yields run Q ↔ Q run.scene.main run := by
  rw [main, yields_bind, yields_scene, yields_pure]

/-- Changing the main world. -/
@[simp] lemma yields_changeMain {f : World → World} {Q : Unit → Run σ Atlas → Prop} :
    (changeMain f : Gen σ Atlas Unit).Yields run Q ↔
      Q () { run with scene := { run.scene with main := f run.scene.main } } :=
  yields_change

/-- A step on one star of a chart. -/
lemma yields_onStar {id : StarId} {x : Gen σ StarSystem α} {Q : α → Run σ Atlas → Prop} :
    (onStar id x).Yields run Q ↔ ∀ s, run.scene.star? id = some s →
      x.Yields ⟨run.dice, run.journal, s⟩ fun v inner =>
        Q v ⟨inner.dice, inner.journal, run.scene.setStar id inner.scene⟩ := by
  simp only [onStar, yields_bind, yields_star, yields_onPart]

end Charts

end Starchart.Gen
