import Starchart.Fault
import Starchart.Random.Source

/-!
# Dice

Every roll and every uniform pick asks the random source for one number below a bound.  The dice
remember the bounds in the order they were asked for, so two runs can be compared roll by roll.

## Main definitions

* `Starchart.Dice` — a random source and the bounds asked of it so far.
* `Starchart.Roll` — a computation that rolls dice and may fail.
* `Starchart.Roll.index` — a uniform pick among `n` possibilities.
* `Starchart.Roll.d6`, `Starchart.Roll.twoD6`, `Starchart.Roll.d10`, `Starchart.Roll.d12` — dice.
* `Starchart.Roll.choice` — a uniform pick out of a list.
-/

set_option autoImplicit false

namespace Starchart

/-- A random source with the bounds asked of it, the latest first. The bounds are kept so that two
runs can be compared roll by roll. -/
structure Dice (σ : Type) where
  source : σ
  asked : List Int := []

/-- A computation that rolls dice.  When it fails, the dice it has rolled stay rolled. -/
abbrev Roll (σ : Type) := EStateM Fault (Dice σ)

namespace Roll

variable {σ : Type}

/-- What a pure reading answers, as a computation without rolls. -/
def ofExcept {α : Type} : Except Fault α → Roll σ α
  | .ok a => pure a
  | .error e => throw e

instance : MonadLift (Except Fault) (Roll σ) := ⟨ofExcept⟩

variable [RandomSource σ]

/-- A uniform pick among the numbers below `n`; it fails when there are none. -/
def index (n : Nat) : Roll σ (Fin n) := fun dice =>
  let asked := (n : Int) :: dice.asked
  if pos : 0 < n then
    match RandomSource.draw dice.source n pos with
    | (some value, source) => .ok value ⟨source, asked⟩
    | (none, source) => .error .sourceExhausted ⟨source, asked⟩
  else .error .emptyRange ⟨dice.source, asked⟩

/-- A uniform number from `0` up to `n - 1`; it fails unless `n` is positive. -/
def below (n : Int) : Roll σ Int :=
  if n < 0 then fun dice => .error .emptyRange { dice with asked := n :: dice.asked }
  else do return ((← index n.toNat).val : Int)

/-- A die with the given number of sides, from one up. -/
def die (sides : Int) : Roll σ Int :=
  return (← below sides) + 1

/-- The common die. -/
def d6 : Roll σ Int := die 6

/-- The sum of two common dice. -/
def twoD6 : Roll σ Int := do
  let first ← d6
  let second ← d6
  return first + second

/-- A ten-sided die counted from zero. -/
def d10 : Roll σ Int := below 10

/-- The twelve-sided die. -/
def d12 : Roll σ Int := die 12

/-- A uniform pick out of a list; it fails when the list is empty. -/
def choice {α : Type} (options : List α) : Roll σ α :=
  return options.get (← index options.length)

end Roll

end Starchart
