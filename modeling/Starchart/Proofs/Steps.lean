import Starchart.Proofs.Growth

/-!
# Single steps

What the smallest steps of a run come to when their inputs are known.  Unlike a description by what
holds after it, such an equation also tells how a step fails.

## Main definitions

* `Starchart.Gen.leaves` — the run as a step leaves it.

## Main results

* `Starchart.Gen.bind_ok`, `Starchart.Gen.bind_error` — two steps in a row.
* `Starchart.Gen.attempt_apply` — an operation that may be refused.
* `Starchart.Gen.onStar_apply`, `Starchart.Gen.onStar_bind` — steps on one star.
-/

set_option autoImplicit false

namespace Starchart.Gen

variable {σ ρ τ : Type} {α β : Type} {run mid : Run σ ρ}

/-- The run as a step leaves it, be it that the step fails. -/
def leaves (x : Gen σ ρ α) (run : Run σ ρ) : Run σ ρ :=
  match x run with
  | .ok _ after => after
  | .error _ after => after

/-- If the first of two steps ends, the second one goes on. -/
lemma bind_ok {x : Gen σ ρ α} {f : α → Gen σ ρ β} {a : α} (ended : x run = .ok a mid) :
    (x >>= f) run = f a mid := by
  simp only [bind, EStateM.bind, ended]

/-- If the first of two steps fails, so do both. -/
lemma bind_error {x : Gen σ ρ α} {f : α → Gen σ ρ β} {e : Fault} (failed : x run = .error e mid) :
    (x >>= f) run = .error e mid := by
  simp only [bind, EStateM.bind, failed]

/-- A pure reading that answers. -/
lemma ofExcept_ok {x : Except Fault α} {a : α} (answered : x = .ok a) :
    (liftM x : Gen σ ρ α) run = .ok a run := by
  rw [answered]
  rfl

/-- A pure reading that fails. -/
lemma ofExcept_error {x : Except Fault α} {e : Fault} (failed : x = .error e) :
    (liftM x : Gen σ ρ α) run = .error e run := by
  rw [failed]
  rfl

/-- An operation on the scene that may be refused. -/
lemma attempt_apply (f : ρ → Except Fault ρ) (run : Run σ ρ) :
    (attempt f : Gen σ ρ Unit) run = match f run.scene with
      | .ok after => .ok () { run with scene := after }
      | .error e => .error e run := by
  change ((liftM (f run.scene) : Gen σ ρ ρ) >>= fun after => change fun _ => after) run = _
  cases f run.scene <;> rfl

/-- An operation on the scene that is not refused. -/
lemma attempt_ok {f : ρ → Except Fault ρ} {after : ρ} (answered : f run.scene = .ok after) :
    (attempt f : Gen σ ρ Unit) run = .ok () { run with scene := after } := by
  rw [attempt_apply, answered]

/-! ## Steps on charts -/

variable {run : Run σ Atlas} {id : StarId} {s : StarSystem}

/-- Looking at a known star. -/
lemma star_ok (found : run.scene.star? id = some s) :
    (star id : Gen σ Atlas StarSystem) run = .ok s run :=
  ofExcept_ok (Atlas.star_eq found)

/-- Looking at a star that there is not. -/
lemma star_error (unknown : run.scene.star? id = none) :
    (star id : Gen σ Atlas StarSystem) run = .error (.noSuchStar id) run := by
  refine ofExcept_error ?_
  rw [Atlas.star, unknown]

/-- What is done with the main world. -/
lemma main_bind (f : World → Gen σ Atlas α) (run : Run σ Atlas) :
    (main >>= f) run = f run.scene.main run := rfl

/-- A step on a known star. -/
lemma onStar_apply (found : run.scene.star? id = some s) (x : Gen σ StarSystem α) :
    onStar id x run = match x ⟨run.dice, run.journal, s⟩ with
      | .ok a inner => .ok a ⟨inner.dice, inner.journal, run.scene.setStar id inner.scene⟩
      | .error e inner =>
        .error e ⟨inner.dice, inner.journal, run.scene.setStar id inner.scene⟩ := by
  rw [onStar, bind_ok (star_ok found), onPart]
  cases x ⟨run.dice, run.journal, s⟩ <;> rfl

/-- A step on a star that there is not. -/
lemma onStar_error (unknown : run.scene.star? id = none) (x : Gen σ StarSystem α) :
    onStar id x run = .error (.noSuchStar id) run :=
  bind_error (star_error unknown)

/-- Two steps in a row on one star.

**Proof sketch.** On an unknown star both sides fail alike. On a known one the second step finds the
star as the first one left it, and setting it twice is setting it to what came last. -/
theorem onStar_bind (id : StarId) (x : Gen σ StarSystem α) (f : α → Gen σ StarSystem β) :
    (onStar id (x >>= f) : Gen σ Atlas β) = onStar id x >>= fun a => onStar id (f a) := by
  funext run
  cases found : run.scene.star? id with
  | none => rw [onStar_error found, bind_error (onStar_error found x)]
  | some s =>
    cases first : x ⟨run.dice, run.journal, s⟩ with
    | error e inner =>
      have both : (x >>= f) ⟨run.dice, run.journal, s⟩ = .error e inner := bind_error first
      have stopped := onStar_apply found x
      rw [first] at stopped
      rw [onStar_apply found, both, bind_error stopped]
    | ok a inner =>
      have both : (x >>= f) ⟨run.dice, run.journal, s⟩ = f a inner := bind_ok first
      have ended := onStar_apply found x
      rw [first] at ended
      have found' := Atlas.star?_setStar_self found inner.scene
      rw [onStar_apply found, both, bind_ok ended, onStar_apply found']
      simp only [Atlas.setStar_setStar]

end Starchart.Gen
