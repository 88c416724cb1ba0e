import Starchart.Dice
import Starchart.Journal

/-!
# Runs

A run rolls dice, keeps a journal and changes a scene: a body, a star with its slots, or a whole
chart.  When a step fails, everything done before the failure stays done.

## Main definitions

* `Starchart.Run` — dice, journal and scene.
* `Starchart.Gen` — a step of a run.
* `Starchart.Gen.onPart` — a step on part of a scene, as a step on the whole.
-/

set_option autoImplicit false

namespace Starchart

/-- The state of a run whose scene is a `ρ`. The scene is what the step works on: a single body, a
star or the whole chart. -/
structure Run (σ ρ : Type) where
  dice : Dice σ
  journal : Journal
  scene : ρ

/-- A step of a run on a scene `ρ`. A step that fails leaves the run as it was then, and nothing is
taken back. -/
abbrev Gen (σ ρ : Type) := EStateM Fault (Run σ ρ)

namespace Gen

variable {σ ρ τ : Type} {α : Type}

/-- A roll, as a step that leaves journal and scene alone. -/
def roll (x : Roll σ α) : Gen σ ρ α := fun run =>
  match x run.dice with
  | .ok a dice => .ok a { run with dice := dice }
  | .error e dice => .error e { run with dice := dice }

/-- What a pure reading answers, as a step that changes nothing. -/
def ofExcept : Except Fault α → Gen σ ρ α
  | .ok a => pure a
  | .error e => throw e

instance : MonadLift (Except Fault) (Gen σ ρ) := ⟨ofExcept⟩

/-- The scene as it stands. -/
def scene : Gen σ ρ ρ := return (← get).scene

/-- Changes the scene. -/
def change (f : ρ → ρ) : Gen σ ρ Unit :=
  modify fun run => { run with scene := f run.scene }

/-- Adds an event to the journal. -/
def record (e : Event) : Gen σ ρ Unit :=
  modify fun run => { run with journal := run.journal ++ [e] }

/-- Records a diagnostic. -/
def diagnose (d : Diagnostic) : Gen σ ρ Unit := record (.diagnosed d)

/-- Changes the scene by an operation that may be refused; a refusal leaves it alone. -/
def attempt (f : ρ → Except Fault ρ) : Gen σ ρ Unit := do
  let after ← f (← scene)
  change fun _ => after

/-- A step on the part of the scene that `view` shows and `update` puts back.  The part is put back
also when the step fails. -/
def onPart (view : ρ → τ) (update : τ → ρ → ρ) (x : Gen σ τ α) : Gen σ ρ α := fun run =>
  match x ⟨run.dice, run.journal, view run.scene⟩ with
  | .ok a inner => .ok a ⟨inner.dice, inner.journal, update inner.scene run.scene⟩
  | .error e inner => .error e ⟨inner.dice, inner.journal, update inner.scene run.scene⟩

end Gen

end Starchart
